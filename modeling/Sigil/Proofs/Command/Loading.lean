import Mathlib
import Sigil.Command.Setup
import Sigil.Proofs.Binding.Loading
import Sigil.Proofs.Json.Members

/-! The bindings a command loads from a file: what stands last under each name decides all of them, and one that
is refused refuses them all. -/

namespace Sigil.Command

open Bindings (Loaded FirstFailure)

variable {files : Files} {path text : String} {serial : Nat}

theorem loadBindings_of_isObject (hfile : files path = .ok text) {pairs : List (String × Json)}
    (h : Json.IsObject text pairs) : loadBindings files serial (some path) =
      (Bindings.ofJson serial (.object (Entries.ofList pairs))).mapError fun x => path ++ ": " ++ x.message := by
  have hread : Json.read text = .ok (.object (Entries.ofList pairs)) :=
    Json.read_eq_object_iff.2 ⟨pairs, h, rfl⟩
  simp only [loadBindings, readFile, hfile, Except.mapError, Bindings.parse, Json.parse, hread]
  cases Bindings.ofJson serial (.object (Entries.ofList pairs)) <;> rfl

theorem loadBindings_cases (hfile : files path = .ok text) {pairs : List (String × Json)}
    (h : Json.IsObject text pairs) (serial : Nat) :
    (∃ d, loadBindings files serial (some path) = .ok d ∧
      Loaded serial (fun name => Entries.find? name pairs.reverse) d) ∨
    ∃ name e, loadBindings files serial (some path) =
        .error (path ++ ": `" ++ name ++ "`: " ++ e.message) ∧
      FirstFailure (fun name => Entries.find? name pairs.reverse) name e := by
  have hsorted : SortedByName (Entries.ofList pairs) := Entries.sortedByName_ofList pairs
  have hunder : (fun name => Entries.find? name pairs.reverse) =
      fun name => Entries.find? name (Entries.ofList pairs) :=
    funext fun name => (Entries.find?_ofList pairs name).symm
  rw [loadBindings_of_isObject hfile h, hunder]
  cases hbindings : Bindings.ofJson serial (.object (Entries.ofList pairs)) with
  | ok d => exact .inl ⟨d, rfl, Bindings.loaded_of_ofJson hsorted hbindings⟩
  | error x =>
    obtain ⟨name, e, rfl, hfirst⟩ := Bindings.firstFailure_of_ofJson hsorted hbindings
    have hquote : ": `" = ": " ++ "`" := rfl
    refine .inr ⟨name, e, ?_, hfirst⟩
    simp only [Except.mapError, BindingsError.message, hquote, String.append_assoc]

theorem loadBindings_eq_of_last_eq {files' : Files} {text' : String} {pairs pairs' : List (String × Json)}
    (hfile : files path = .ok text) (h : Json.IsObject text pairs) (hfile' : files' path = .ok text')
    (h' : Json.IsObject text' pairs')
    (hlast : ∀ name, Entries.find? name pairs'.reverse = Entries.find? name pairs.reverse) (serial : Nat) :
    loadBindings files' serial (some path) = loadBindings files serial (some path) := by
  have hmembers : Entries.ofList pairs' = Entries.ofList pairs := by
    refine Entries.eq_of_find?_eq (Entries.sortedByName_ofList pairs') (Entries.sortedByName_ofList pairs)
      fun name => ?_
    rw [Entries.find?_ofList, Entries.find?_ofList, hlast]
  rw [loadBindings_of_isObject hfile' h', loadBindings_of_isObject hfile h, hmembers]

theorem load_of_loadBindings_error {options : Options} {config : Config}
    (hconfig : loadConfig files options.config = .ok config) {message : String}
    (h : loadBindings files 0 options.vars = .error message) : load files options = .error message := by
  simp only [load, hconfig, h]

theorem load_of_loadBindings_ok {options : Options} {config : Config}
    (hconfig : loadConfig files options.config = .ok config) {d : Dictionary TypedValue}
    (h : loadBindings files 0 options.vars = .ok d) {root : TypedValue}
    (hroot : loadRoot d.names.length options.root = .ok root) :
    ∃ setup, load files options = .ok setup ∧ setup.store = ⟨d, options.readOnly⟩ := by
  simp only [load, hconfig, h, hroot]
  exact ⟨_, rfl, rfl⟩

end Sigil.Command
