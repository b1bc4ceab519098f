import Sigil.Proofs.Token.Lexeme

/-! The tokens of a text, by what they owe to it: they stand for its characters in turn, each for as many as
it can, and leave out nothing but white space. The scan yields these tokens, and no other list of tokens has
these properties. -/

namespace Sigil.Token

def atEnd (source : List Char) : Token := ⟨.eof, ⟨Text.byteLength source, Text.byteLength source⟩⟩

/-- A token stands for the characters at the bytes of its span: there is at least one, the first is no white
space, they are a lexeme of its kind, and no longer one stands there. -/
structure StandsIn (t : Token) (source : List Char) : Prop where
  start_lt_stop : t.span.start < t.span.stop
  lexeme : ∃ cut : t.span.Cut source, Lexeme t.kind cut.region ∧ t.kind.EndsBefore cut.behind ∧
    ∀ c ∈ cut.region.head?, Unicode.isBlank c = false

/-- The tokens of a text from a byte offset on. -/
structure Tokenizes (source : List Char) (start : Nat) (ts : List Token) : Prop where
  atEnd_last : ∃ read, ts = read ++ [atEnd source] ∧ ∀ t ∈ read, t.kind ≠ .eof
  standsIn : ∀ t ∈ ts, t.kind ≠ .eof → t.StandsIn source
  start_le : ∀ t ∈ ts, start ≤ t.span.start
  ordered : ts.Pairwise fun s t => s.span.stop ≤ t.span.start
  blank_outside : ∀ left c right, source = left ++ c :: right → start ≤ Text.byteLength left →
    (∀ t ∈ ts, ¬(t.span.start ≤ Text.byteLength left ∧ Text.byteLength left < t.span.stop)) →
      Unicode.isBlank c = true

def BlankBetween (source : List Char) (start stop : Nat) : Prop :=
  ∀ left c right, source = left ++ c :: right → start ≤ Text.byteLength left →
    Text.byteLength left < stop → Unicode.isBlank c = true

namespace StandsIn

variable {t : Token} {source : List Char}

theorem of_cut (cut : t.span.Cut source) (lexeme : Lexeme t.kind cut.region)
    (ends : t.kind.EndsBefore cut.behind) : t.StandsIn source :=
  ⟨cut.start_lt_stop lexeme.ne_nil, cut, lexeme, ends, lexeme.isBlank_head⟩

theorem exists_start (h : t.StandsIn source) : ∃ left c right, source = left ++ c :: right ∧
    t.span.start = Text.byteLength left ∧ Unicode.isBlank c = false := by
  obtain ⟨cut, lexeme, -, hblank⟩ := h.lexeme
  have hsource : source = cut.before ++ (cut.region ++ cut.behind) := cut.chars_eq
  cases hregion : cut.region with
  | nil => exact absurd hregion lexeme.ne_nil
  | cons c cs =>
    rw [hregion] at hsource hblank
    exact ⟨cut.before, c, cs ++ cut.behind, hsource, cut.start_eq, hblank c rfl⟩

theorem eq_of_start {kind : Kind} {before cs rest : List Char} (h : t.StandsIn (before ++ (cs ++ rest)))
    (hstart : t.span.start = Text.byteLength before) (lexeme : Lexeme kind cs)
    (ends : kind.EndsBefore rest) :
    t = ⟨kind, ⟨Text.byteLength before, Text.byteLength (before ++ cs)⟩⟩ := by
  obtain ⟨cut, lexeme', ends', -⟩ := h.lexeme
  have hbefore : before = cut.before :=
    Text.eq_of_byteLength_eq cut.chars_eq (hstart.symm.trans cut.start_eq)
  have hrest : cs ++ rest = cut.region ++ cut.behind := by
    have hchars := cut.chars_eq
    rw [← hbefore] at hchars
    exact List.append_cancel_left hchars
  obtain ⟨hkind, hregion⟩ := lexeme.unique ends lexeme' ends' hrest
  have hspan := cut.span_eq
  rw [← hbefore, ← hregion] at hspan
  rw [hkind, ← hspan]

end StandsIn

namespace Tokenizes

variable {source : List Char} {start : Nat} {t : Token} {ts : List Token}

theorem eq_atEnd (h : Tokenizes source start ts) (ht : t ∈ ts) (heof : t.kind = .eof) :
    t = atEnd source := by
  obtain ⟨read, rfl, hread⟩ := h.atEnd_last
  rcases List.mem_append.1 ht with ht | ht
  · exact absurd heof (hread t ht)
  · exact List.mem_singleton.1 ht

theorem start_le_stop (h : Tokenizes source start ts) (ht : t ∈ ts) : t.span.start ≤ t.span.stop := by
  by_cases heof : t.kind = .eof
  · rw [h.eq_atEnd ht heof]
    exact Nat.le_refl _
  · exact (h.standsIn t ht heof).start_lt_stop.le

theorem stop_le (h : Tokenizes source start ts) (ht : t ∈ ts) : t.span.stop ≤ Text.byteLength source := by
  by_cases heof : t.kind = .eof
  · rw [h.eq_atEnd ht heof]
    exact Nat.le_refl _
  · obtain ⟨cut, -⟩ := (h.standsIn t ht heof).lexeme
    exact cut.stop_le

theorem cons_iff (hstart : start ≤ t.span.start) (h : t.StandsIn source) (hne : t.kind ≠ .eof)
    (hblank : BlankBetween source start t.span.start) :
    Tokenizes source start (t :: ts) ↔ Tokenizes source t.span.stop ts := by
  constructor
  · intro htokens
    obtain ⟨hfirst, hordered⟩ := List.pairwise_cons.1 htokens.ordered
    refine ⟨?_, fun s hs => htokens.standsIn s (List.mem_cons_of_mem t hs), hfirst, hordered, ?_⟩
    · obtain ⟨read, hts, hread⟩ := htokens.atEnd_last
      cases read with
      | nil =>
        obtain ⟨rfl, -⟩ := List.cons.inj hts
        exact absurd rfl hne
      | cons s read =>
        exact ⟨read, (List.cons.inj hts).2, fun u hu => hread u (List.mem_cons_of_mem s hu)⟩
    · intro left c right hsource hleft hfree
      have hstop : t.span.start < t.span.stop := h.start_lt_stop
      refine htokens.blank_outside left c right hsource (by omega) (List.forall_mem_cons.2 ⟨?_, hfree⟩)
      omega
  · intro htail
    have hstop : t.span.start < t.span.stop := h.start_lt_stop
    refine ⟨?_, ?_, ?_, List.pairwise_cons.2 ⟨htail.start_le, htail.ordered⟩, ?_⟩
    · obtain ⟨read, rfl, hread⟩ := htail.atEnd_last
      exact ⟨t :: read, rfl, List.forall_mem_cons.2 ⟨hne, hread⟩⟩
    · exact List.forall_mem_cons.2 ⟨fun _ => h, htail.standsIn⟩
    · refine List.forall_mem_cons.2 ⟨hstart, fun s hs => ?_⟩
      have hs' : t.span.stop ≤ s.span.start := htail.start_le s hs
      omega
    · intro left c right hsource hleft hfree
      obtain ⟨houtside, hfree⟩ := List.forall_mem_cons.1 hfree
      -- The character stands before the token or behind it.
      by_cases hbefore : Text.byteLength left < t.span.start
      · exact hblank left c right hsource hleft hbefore
      · exact htail.blank_outside left c right hsource (by omega) hfree

theorem start_of_head {left right : List Char} {c : Char} (h : Tokenizes source start (t :: ts))
    (hsource : source = left ++ c :: right) (hc : Unicode.isBlank c = false)
    (hleft : start ≤ Text.byteLength left)
    (hblank : BlankBetween source start (Text.byteLength left)) :
    t.kind ≠ .eof ∧ t.span.start = Text.byteLength left := by
  have hle : t.span.start ≤ Text.byteLength left := by
    -- Some token covers the character, and the first one starts no later.
    have hcover : ∃ s ∈ t :: ts,
        s.span.start ≤ Text.byteLength left ∧ Text.byteLength left < s.span.stop := by
      by_contra hfree
      have hc' := h.blank_outside left c right hsource hleft fun s hs hs' => hfree ⟨s, hs, hs'⟩
      rw [hc] at hc'
      contradiction
    obtain ⟨s, hs, hstart, -⟩ := hcover
    rcases List.mem_cons.1 hs with rfl | hs
    · exact hstart
    · have hst : t.span.stop ≤ s.span.start := (List.pairwise_cons.1 h.ordered).1 s hs
      have htt : t.span.start ≤ t.span.stop := h.start_le_stop List.mem_cons_self
      omega
  have hne : t.kind ≠ .eof := by
    intro heof
    rw [h.eq_atEnd List.mem_cons_self heof] at hle
    have hbytes : Text.byteLength source ≤ Text.byteLength left := hle
    have hpos : 0 < c.utf8Size := c.utf8Size_pos
    rw [hsource, Text.byteLength_append, Text.byteLength_cons] at hbytes
    omega
  refine ⟨hne, hle.antisymm ?_⟩
  by_contra hlt
  obtain ⟨left', d, right', hsource', hstart, hd⟩ :=
    (h.standsIn t List.mem_cons_self hne).exists_start
  have hfrom : start ≤ t.span.start := h.start_le t List.mem_cons_self
  have hd' := hblank left' d right' hsource' (by omega) (by omega)
  rw [hd] at hd'
  contradiction

end Tokenizes

section

variable {before bs : List Char} (hbs : AllBlank bs)
include hbs

theorem tokenizes_blank_iff (ts : List Token) :
    Tokenizes (before ++ bs) (Text.byteLength before) ts ↔ ts = [atEnd (before ++ bs)] := by
  constructor
  · intro h
    obtain ⟨read, rfl, hread⟩ := h.atEnd_last
    cases read with
    | nil => rfl
    | cons t read =>
      -- A token would start with a character of `bs`.
      obtain ⟨left, c, right, hsource, hstart, hc⟩ :=
        (h.standsIn t (by simp) (hread t List.mem_cons_self)).exists_start
      have hbefore : Text.byteLength before ≤ t.span.start := h.start_le t (by simp)
      rw [hbs c (Text.mem_of_byteLength_le hsource (hstart ▸ hbefore))] at hc
      contradiction
  · rintro rfl
    refine ⟨⟨[], rfl, by simp⟩, by simp [atEnd], by simp [atEnd], List.pairwise_singleton _ _, ?_⟩
    intro left c right hsource hleft _
    exact hbs c (Text.mem_of_byteLength_le hsource hleft)

theorem tokenizes_lexeme_iff {kind : Kind} {cs rest : List Char} (lexeme : Lexeme kind cs)
    (ends : kind.EndsBefore rest) (ts : List Token) :
    Tokenizes (before ++ bs ++ (cs ++ rest)) (Text.byteLength before) ts ↔
      ∃ tail, ts =
          ⟨kind, ⟨Text.byteLength (before ++ bs), Text.byteLength (before ++ bs ++ cs)⟩⟩ :: tail ∧
        Tokenizes (before ++ bs ++ (cs ++ rest)) (Text.byteLength (before ++ bs ++ cs)) tail := by
  have hblank : BlankBetween (before ++ bs ++ (cs ++ rest)) (Text.byteLength before)
      (Text.byteLength (before ++ bs)) := by
    intro left c right hsource hstart hstop
    rw [List.append_assoc] at hsource
    exact hbs c (Text.mem_of_byteLength_between hsource hstart hstop)
  have hbefore : Text.byteLength before ≤ Text.byteLength (before ++ bs) := by
    rw [Text.byteLength_append]
    omega
  have hstands : StandsIn ⟨kind, ⟨Text.byteLength (before ++ bs), Text.byteLength (before ++ bs ++ cs)⟩⟩
      (before ++ bs ++ (cs ++ rest)) :=
    .of_cut ⟨before ++ bs, cs, rest, rfl, rfl⟩ lexeme ends
  have hne : kind ≠ .eof := by
    rintro rfl
    cases lexeme
  constructor
  · intro h
    cases ts with
    | nil =>
      obtain ⟨read, hread, -⟩ := h.atEnd_last
      simp at hread
    | cons t tail =>
      obtain ⟨left, c, right, hsource, hleft, hc⟩ := hstands.exists_start
      have hleft : Text.byteLength (before ++ bs) = Text.byteLength left := hleft
      obtain ⟨htne, htstart⟩ := h.start_of_head hsource hc (hleft ▸ hbefore) (hleft ▸ hblank)
      have ht := (h.standsIn t List.mem_cons_self htne).eq_of_start (htstart.trans hleft.symm) lexeme ends
      subst ht
      exact ⟨tail, rfl, (Tokenizes.cons_iff hbefore hstands hne hblank).1 h⟩
  · rintro ⟨tail, rfl, htail⟩
    exact (Tokenizes.cons_iff hbefore hstands hne hblank).2 htail

end

theorem tokenizes_iff_scan (before cs : List Char) (ts : List Token) :
    Tokenizes (before ++ cs) (Text.byteLength before) ts ↔ ts = scan (Text.byteLength before) cs := by
  -- The induction moves each piece that was read to the characters before.
  induction segmented cs generalizing before ts with
  | blank hblank => rw [tokenizes_blank_iff hblank, scan_allBlank hblank, atEnd, Text.byteLength_append]
  | @lexeme kind cs rest bs hblank lexeme ends tail ih =>
    have htail (ts : List Token) := ih (before ++ bs ++ cs) ts
    rw [scan_behind before hblank lexeme ends, ← List.append_assoc,
      tokenizes_lexeme_iff hblank lexeme ends]
    simp only [List.append_assoc] at htail ⊢
    simp only [htail, exists_eq_right]

theorem tokenizes_tokenize (source : String) : Tokenizes source.toList 0 (tokenize source) :=
  (tokenizes_iff_scan [] source.toList _).2 rfl

theorem standsIn_of_mem_tokenize {source : String} {t : Token} (h : t ∈ tokenize source) :
    t.kind = .eof ∨ t.StandsIn source.toList := by
  by_cases heof : t.kind = .eof
  · exact .inl heof
  · exact .inr ((tokenizes_tokenize source).standsIn t h heof)

/-- The scanned tokens are the only list of tokens that a text has. -/
theorem tokenizes_iff_eq_tokenize (source : String) (ts : List Token) :
    (Tokenizes source.toList 0 ts ↔ ts = tokenize source) ∧
      (Text.byteLength source.toList < UInt32.size →
        ∀ t ∈ tokenize source, t.span = .ofOffsets t.span.start t.span.stop) := by
  refine ⟨tokenizes_iff_scan [] source.toList ts, ?_⟩
  intro hbytes t ht
  have hstop : t.span.stop ≤ Text.byteLength source.toList := (tokenizes_tokenize source).stop_le ht
  exact Span.eq_ofOffsets ((tokenizes_tokenize source).start_le_stop ht) (hstop.trans_lt hbytes)

theorem tokenizes_wide_spaced :
    let source := "# é1.\u3000"
    Tokenizes source.toList 0 [⟨.hash, ⟨0, 1⟩⟩, ⟨.ident "é1", ⟨2, 5⟩⟩, ⟨.unknown '.', ⟨5, 6⟩⟩,
        ⟨.eof, ⟨9, 9⟩⟩] ∧
      ∀ t ∈ tokenize source, t.span = .ofOffsets t.span.start t.span.stop := by
  intro source
  have htokens : tokenize source = [⟨.hash, ⟨0, 1⟩⟩, ⟨.ident "é1", ⟨2, 5⟩⟩, ⟨.unknown '.', ⟨5, 6⟩⟩,
      ⟨.eof, ⟨9, 9⟩⟩] := by decide +kernel
  exact ⟨(tokenizes_iff_eq_tokenize source _).1.2 htokens.symm,
    (tokenizes_iff_eq_tokenize source []).2 (by decide)⟩

end Sigil.Token
