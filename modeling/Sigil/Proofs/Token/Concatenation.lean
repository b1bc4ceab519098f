import Sigil.Proofs.Token.Tokenization

/-! Scanning one text behind another. Unless a name at the end of the first one goes on in the second, each is
scanned as if it stood by itself. Otherwise the two parts of the name are one token, and what is behind them is
scanned by itself. -/

namespace Sigil

theorem IsName.append {name more : List Char} (h : IsName name)
    (hmore : ∀ c ∈ more, isNameContinue c = true) : IsName (name ++ more) := by
  cases name with
  | nil => exact absurd rfl h.ne_nil
  | cons c cs => exact ⟨h.1, List.forall_mem_append.2 ⟨h.2, hmore⟩⟩

namespace Token

def shift (t : Token) (n : Nat) : Token := ⟨t.kind, t.span.shift n⟩

theorem scan_shift (start n : Nat) (cs : List Char) :
    scan (start + n) cs = (scan start cs).map (·.shift n) := by
  induction segmented cs generalizing start with
  | blank hblank =>
    rw [scan_allBlank hblank, scan_allBlank hblank, Nat.add_right_comm]
    rfl
  | lexeme bs hblank lexeme ends tail ih =>
    rw [scan_segment hblank lexeme ends, scan_segment hblank lexeme ends, List.map_cons, ← ih]
    simp only [shift, Span.shift, Nat.add_right_comm _ n]

theorem scan_eq_map_shift (start : Nat) (cs : List Char) :
    scan start cs = (scan 0 cs).map (·.shift start) := by
  rw [← scan_shift, Nat.zero_add]

/-- What stands behind a text is scanned by itself, whatever it is. -/
def Closed (cs : List Char) : Prop :=
  ∀ start, ∃ read, ∀ rest, scan start (cs ++ rest) = read ++ scan (start + Text.byteLength cs) rest

namespace Closed

theorem blank {cs : List Char} (h : AllBlank cs) : Closed cs :=
  fun start => ⟨[], fun rest => scan_blanks h start rest⟩

theorem lexeme {kind : Kind} {bs cs rest : List Char} (blank : AllBlank bs) (lexeme : Lexeme kind cs)
    (ends : ∀ behind, kind.EndsBefore (rest ++ behind)) (h : Closed rest) :
    Closed (bs ++ (cs ++ rest)) := by
  intro start
  obtain ⟨read, hread⟩ := h (start + Text.byteLength bs + Text.byteLength cs)
  let first : Token :=
    ⟨kind, ⟨start + Text.byteLength bs, start + Text.byteLength bs + Text.byteLength cs⟩⟩
  refine ⟨first :: read, fun behind => ?_⟩
  rw [List.append_assoc, List.append_assoc, scan_segment blank lexeme (ends behind), hread behind,
    List.cons_append]
  simp only [first, Text.byteLength_append, Nat.add_assoc]

end Closed

theorem Kind.EndsBefore.forall_or {kind : Kind} {first rest : List Char}
    (h : kind.EndsBefore (first ++ rest)) :
    (∀ behind, kind.EndsBefore (first ++ behind)) ∨ first = [] ∧ ∃ name, kind = .ident name := by
  cases first with
  | nil =>
    cases kind with
    | ident name => exact .inr ⟨rfl, name, rfl⟩
    | _ => exact .inl fun _ => trivial
  | cons c cs => exact .inl fun behind => by cases kind <;> exact h

theorem exists_closed_append (cs : List Char) :
    ∃ before name, cs = before ++ name ∧ Closed before ∧ (name = [] ∨ IsName name) := by
  induction segmented cs with
  | @blank cs hblank => exact ⟨cs, [], by rw [List.append_nil], .blank hblank, .inl rfl⟩
  | @lexeme kind cs rest bs hblank lexeme ends tail ih =>
    obtain ⟨before, name, rfl, hclosed, hname⟩ := ih
    rcases ends.forall_or with hends | ⟨rfl, text, rfl⟩
    · exact ⟨bs ++ (cs ++ before), name, by simp only [List.append_assoc],
        .lexeme hblank lexeme hends hclosed, hname⟩
    · rcases hname with rfl | hname
      · cases lexeme with
        | ident hcs => exact ⟨bs, cs, by simp only [List.append_nil], .blank hblank, .inr hcs⟩
      · -- Two names do not meet: the first would go on with the start of the second.
        cases name with
        | nil => exact absurd rfl hname.ne_nil
        | cons c name =>
          have hc : isNameContinue c = false := ends c rfl
          rw [isNameContinue_of_isNameStart hname.1] at hc
          contradiction

theorem Closed.tokenize_name {a : String} {before name : List Char} (h : Closed before)
    (hname : IsName name) (ha : a.toList = before ++ name) :
    let stop := Text.byteLength a.toList
    ∃ read, tokenize a =
        read ++ [⟨.ident (String.ofList name), ⟨Text.byteLength before, stop⟩⟩, atEnd a.toList] ∧
      ∀ (b : String) (more rest : List Char), b.toList = more ++ rest →
        (∀ c ∈ more, isNameContinue c = true) → (∀ c ∈ rest.head?, isNameContinue c = false) →
          tokenize (a ++ b) = read ++ ⟨.ident (String.ofList name ++ String.ofList more),
            ⟨Text.byteLength before, stop + Text.byteLength more⟩⟩ ::
              (tokenize (String.ofList rest)).map (·.shift (stop + Text.byteLength more)) := by
  intro stop
  obtain ⟨read, hread⟩ := h 0
  have hstop : Text.byteLength before + Text.byteLength name = stop := by
    rw [← Text.byteLength_append, ← ha]
  refine ⟨read, ?_, fun b more rest hb hmore hrest => ?_⟩
  · have hend : scan (Text.byteLength before) (name ++ []) = _ := scan_name hname (by simp) _
    rw [List.append_nil, hstop, scan_nil] at hend
    calc tokenize a = read ++ scan (Text.byteLength before) name := by
          rw [tokenize, ha, hread, Nat.zero_add]
      _ = _ := by rw [hend, atEnd]
  · rw [tokenize, String.toList_append, ha, hb, List.append_assoc, ← List.append_assoc name, hread,
      Nat.zero_add, scan_name (hname.append hmore) hrest, Text.byteLength_append, ← Nat.add_assoc, hstop,
      scan_eq_map_shift, String.ofList_append, tokenize, String.toList_ofList]

def EndsInName (source : String) : Prop :=
  ∃ left c, source.toList = left ++ [c] ∧
    ∃ t ∈ tokenize source, (∃ name, t.kind = .ident name) ∧
      t.span.start ≤ Text.byteLength left ∧ Text.byteLength left < t.span.stop

def Fuses (first second : String) : Prop :=
  EndsInName first ∧ ∃ c ∈ second.toList.head?, isNameContinue c = true

theorem StandsIn.stop_eq {t : Token} {left : List Char} {c : Char} (h : t.StandsIn (left ++ [c]))
    (hstop : Text.byteLength left < t.span.stop) : t.span.stop = Text.byteLength (left ++ [c]) := by
  obtain ⟨cut, -⟩ := h.lexeme
  have hchars : left ++ [c] = (cut.before ++ cut.region) ++ cut.behind := by
    rw [List.append_assoc]
    exact cut.chars_eq
  rw [cut.stop_eq] at hstop
  obtain ⟨es, hes, hc⟩ := Text.exists_append_of_byteLength_le hchars hstop.le
  cases es with
  | nil =>
    rw [hes, List.append_nil] at hstop
    exact absurd hstop (Nat.lt_irrefl _)
  | cons d es =>
    obtain ⟨-, hbehind⟩ := List.append_eq_nil_iff.1 (List.cons.inj hc).2.symm
    rw [hbehind, List.append_nil] at hchars
    rw [cut.stop_eq]
    exact congrArg Text.byteLength hchars.symm

theorem Closed.not_endsInName {source : String} (h : Closed source.toList) : ¬EndsInName source := by
  rintro ⟨left, c, hsource, t, ht, ⟨name, hkind⟩, -, hstop⟩
  have hne : t.kind ≠ .eof := by
    rw [hkind]
    simp
  have hstop : t.span.stop = Text.byteLength source.toList := by
    have hstands := (standsIn_of_mem_tokenize ht).resolve_left hne
    rw [hsource] at hstands ⊢
    exact hstands.stop_eq hstop
  obtain ⟨read, hread⟩ := h 0
  have hlonger : t ∈ tokenize (source ++ "a") := by
    have hmem : t ∈ scan 0 (source.toList ++ []) := by rwa [List.append_nil]
    rw [hread, scan_nil, List.mem_append, List.mem_singleton] at hmem
    rw [tokenize, String.toList_append, hread]
    exact List.mem_append_left _ (hmem.resolve_right fun heof => hne (by rw [heof]))
  obtain ⟨cut, -, hends, -⟩ := ((standsIn_of_mem_tokenize hlonger).resolve_left hne).lexeme
  have hchars : source.toList ++ ['a'] = (cut.before ++ cut.region) ++ cut.behind := by
    rw [List.append_assoc, ← cut.chars_eq, String.toList_append]
    rfl
  have hfirst := Text.eq_of_byteLength_eq hchars (hstop.symm.trans cut.stop_eq)
  rw [← hfirst] at hchars
  rw [hkind, ← List.append_cancel_left hchars] at hends
  exact absurd (hends 'a' rfl) (by decide)

theorem Closed.endsInName {source : String} {before name : List Char} (h : Closed before)
    (hname : IsName name) (hsource : source.toList = before ++ name) : EndsInName source := by
  obtain ⟨read, htokens, -⟩ := h.tokenize_name hname hsource
  obtain ⟨left, c, rfl⟩ : ∃ left c, name = left ++ [c] :=
    ⟨_, _, (List.dropLast_concat_getLast hname.ne_nil).symm⟩
  have hc : 0 < c.utf8Size := c.utf8Size_pos
  refine ⟨before ++ left, c, by rw [hsource, List.append_assoc],
    ⟨.ident (String.ofList (left ++ [c])), ⟨Text.byteLength before, Text.byteLength source.toList⟩⟩, ?_,
    ⟨_, rfl⟩, ?_, ?_⟩
  · rw [htokens]
    exact List.mem_append_right _ List.mem_cons_self
  · simp only [Text.byteLength_append]
    omega
  · simp only [hsource, Text.byteLength_append, Text.byteLength_cons, Text.byteLength_nil]
    omega

/-- The scan of two texts, one behind the other, where a name at the end of the first may go on in the
second. -/
theorem tokenize_append (a b : String) :
    (¬Fuses a b → ∃ read, tokenize a = read ++ [atEnd a.toList] ∧
      tokenize (a ++ b) = read ++ (tokenize b).map (·.shift (Text.byteLength a.toList))) ∧
    (Fuses a b →
      let more := b.toList.takeWhile isNameContinue
      let rest := b.toList.dropWhile isNameContinue
      let stop := Text.byteLength a.toList
      ∃ read name start, tokenize a = read ++ [⟨.ident name, ⟨start, stop⟩⟩, atEnd a.toList] ∧
        tokenize (a ++ b) =
          read ++ ⟨.ident (name ++ String.ofList more), ⟨start, stop + Text.byteLength more⟩⟩ ::
            (tokenize (String.ofList rest)).map (·.shift (stop + Text.byteLength more))) ∧
    (Text.byteLength (a ++ b).toList < UInt32.size →
      ∀ t ∈ tokenize (a ++ b), t.span = .ofOffsets t.span.start t.span.stop) := by
  obtain ⟨before, name, ha, hbefore, hname⟩ := exists_closed_append a.toList
  refine ⟨fun hfuses => ?_, fun hfuses => ?_, fun hbytes t ht => ?_⟩
  · rcases hname with rfl | hname
    · obtain ⟨read, hread⟩ := hbefore 0
      rw [← List.append_nil before, ← ha, Nat.zero_add] at hread
      refine ⟨read, ?_, ?_⟩
      · rw [tokenize, ← List.append_nil a.toList, hread, scan_nil, List.append_nil, atEnd]
      · rw [tokenize, String.toList_append, hread, scan_eq_map_shift, tokenize]
    · obtain ⟨read, htokens, happend⟩ := hbefore.tokenize_name hname ha
      have hends : ∀ c ∈ b.toList.head?, isNameContinue c = false := fun c hc =>
        Bool.eq_false_iff.2 fun hc' => hfuses ⟨hbefore.endsInName hname ha, c, hc, hc'⟩
      have hunfused := happend b [] b.toList rfl (by simp) hends
      refine ⟨_, htokens.trans (List.append_cons ..), hunfused.trans ?_⟩
      simp
  · rcases hname with rfl | hname
    · rw [List.append_nil] at ha
      exact absurd hfuses.1 (ha ▸ hbefore).not_endsInName
    · obtain ⟨read, htokens, happend⟩ := hbefore.tokenize_name hname ha
      exact ⟨read, _, _, htokens, happend b _ _ List.takeWhile_append_dropWhile.symm
        (fun c => List.mem_takeWhile_imp) (endsBefore_dropWhile "" b.toList)⟩
  · have htokens := tokenizes_tokenize (a ++ b)
    exact Span.eq_ofOffsets (htokens.start_le_stop ht) ((htokens.stop_le ht).trans_lt hbytes)

theorem tokenize_append_digits :
    -- A digit starts no name, but goes on with one.
    (¬Fuses "#1" "2a" ∧ tokenize ("#1" ++ "2a") =
      [⟨.hash, ⟨0, 1⟩⟩, ⟨.unknown '1', ⟨1, 2⟩⟩] ++ (tokenize "2a").map (·.shift 2)) ∧
    (Fuses "#é" "1 x" ∧ tokenize ("#é" ++ "1 x") =
      [⟨.hash, ⟨0, 1⟩⟩] ++ ⟨.ident "é1", ⟨1, 4⟩⟩ :: (tokenize " x").map (·.shift 4)) ∧
    ∀ t ∈ tokenize ("#é" ++ "1 x"), t.span = .ofOffsets t.span.start t.span.stop := by
  have hdigit : tokenize "#1" =
      [⟨.hash, ⟨0, 1⟩⟩, ⟨.unknown '1', ⟨1, 2⟩⟩] ++ [atEnd "#1".toList] := by decide +kernel
  have hletter : tokenize "#é" =
      [⟨.hash, ⟨0, 1⟩⟩] ++ [⟨.ident "é", ⟨1, 3⟩⟩, atEnd "#é".toList] := by decide +kernel
  have hkinds : ∀ t ∈ tokenize "#1", ∀ name, t.kind ≠ .ident name := by simp [hdigit, atEnd]
  have hunfused : ¬Fuses "#1" "2a" := by
    rintro ⟨⟨left, c, -, t, ht, ⟨name, hkind⟩, -⟩, -⟩
    exact hkinds t ht name hkind
  have hfused : Fuses "#é" "1 x" := by
    refine ⟨⟨['#'], 'é', rfl, ⟨.ident "é", ⟨1, 3⟩⟩, ?_, ⟨_, rfl⟩, by decide, by decide⟩, '1', rfl, by decide⟩
    rw [hletter]
    exact .tail _ (.head _)
  obtain ⟨hscan, -, -⟩ := tokenize_append "#1" "2a"
  obtain ⟨-, hscan', hfits⟩ := tokenize_append "#é" "1 x"
  obtain ⟨read, hread, happend⟩ := hscan hunfused
  obtain ⟨read', name, start, hread', happend'⟩ := hscan' hfused
  obtain ⟨rfl, -⟩ := List.append_inj' (hdigit.symm.trans hread) rfl
  obtain ⟨rfl, hlast⟩ := List.append_inj' (hletter.symm.trans hread') rfl
  cases hlast
  exact ⟨⟨hunfused, happend⟩, ⟨hfused, happend'⟩, hfits (by decide)⟩

end Token
end Sigil
