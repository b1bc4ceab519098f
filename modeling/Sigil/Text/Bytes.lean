/-!
The length of a text in bytes, the unit of spans and of positions.
-/

namespace Sigil.Text

def byteLength : List Char → Nat
  | [] => 0
  | c :: cs => c.utf8Size + byteLength cs

@[simp] theorem byteLength_nil : byteLength [] = 0 := rfl

@[simp] theorem byteLength_cons (c : Char) (cs : List Char) :
    byteLength (c :: cs) = c.utf8Size + byteLength cs := rfl

@[simp] theorem byteLength_append (cs ds : List Char) :
    byteLength (cs ++ ds) = byteLength cs + byteLength ds := by
  induction cs with
  | nil => simp
  | cons c cs ih => rw [List.cons_append, byteLength_cons, ih, byteLength_cons, Nat.add_assoc]

theorem length_le_byteLength (cs : List Char) : cs.length ≤ byteLength cs := by
  induction cs with
  | nil => exact Nat.le_refl 0
  | cons c cs ih =>
    have hc : 0 < c.utf8Size := c.utf8Size_pos
    rw [List.length_cons, byteLength_cons]
    omega

theorem byteLength_eq_length_iff {cs : List Char} :
    byteLength cs = cs.length ↔ ∀ c ∈ cs, c.utf8Size = 1 := by
  induction cs with
  | nil => simp
  | cons c cs ih =>
    have hc : 0 < c.utf8Size := c.utf8Size_pos
    have hcs : cs.length ≤ byteLength cs := length_le_byteLength cs
    rw [List.forall_mem_cons, ← ih, List.length_cons, byteLength_cons]
    omega

theorem eq_nil_of_byteLength_eq_zero {cs : List Char} (h : byteLength cs = 0) : cs = [] := by
  have hlength : cs.length ≤ byteLength cs := length_le_byteLength cs
  exact List.eq_nil_of_length_eq_zero (by omega)

theorem exists_append_of_byteLength_le {as bs cs ds : List Char} (h : as ++ bs = cs ++ ds)
    (hle : byteLength as ≤ byteLength cs) : ∃ es, cs = as ++ es ∧ bs = es ++ ds := by
  rcases List.append_eq_append_iff.1 h with ⟨es, hcs, hbs⟩ | ⟨es, has, hds⟩
  · exact ⟨es, hcs, hbs⟩
  · have hes : es = [] := by
      apply eq_nil_of_byteLength_eq_zero
      rw [has, byteLength_append] at hle
      omega
    subst hes
    exact ⟨[], by simpa using has.symm, by simpa using hds.symm⟩

theorem eq_of_byteLength_eq {as bs cs ds : List Char} (h : as ++ bs = cs ++ ds)
    (hbytes : byteLength as = byteLength cs) : as = cs := by
  obtain ⟨es, rfl, -⟩ := exists_append_of_byteLength_le h (Nat.le_of_eq hbytes)
  have hes : es = [] := by
    apply eq_nil_of_byteLength_eq_zero
    rw [byteLength_append] at hbytes
    omega
  rw [hes, List.append_nil]

theorem mem_of_byteLength_between {before part rest left right : List Char} {c : Char}
    (h : before ++ (part ++ rest) = left ++ c :: right) (hstart : byteLength before ≤ byteLength left)
    (hstop : byteLength left < byteLength (before ++ part)) : c ∈ part := by
  obtain ⟨es, rfl, hes⟩ := exists_append_of_byteLength_le h hstart
  simp only [byteLength_append, Nat.add_lt_add_iff_left] at hstop
  obtain ⟨fs, hpart, hright⟩ := exists_append_of_byteLength_le hes.symm (Nat.le_of_lt hstop)
  cases fs with
  | nil =>
    rw [hpart, List.append_nil] at hstop
    omega
  | cons d fs =>
    obtain ⟨rfl, -⟩ := List.cons.inj hright
    rw [hpart]
    simp

theorem mem_of_byteLength_le {before part left right : List Char} {c : Char}
    (h : before ++ part = left ++ c :: right) (hstart : byteLength before ≤ byteLength left) :
    c ∈ part := by
  obtain ⟨es, -, hpart⟩ := exists_append_of_byteLength_le h hstart
  rw [hpart]
  simp

end Sigil.Text
