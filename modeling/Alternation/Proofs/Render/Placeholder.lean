/-
# The one way to split a text at its placeholders

`SPEC_FULL` §4.3: `parse_placeholders` finds every `%PERSON<digits>[_<subtype>]%` and
leaves other text untouched.

A list of segments splits a text (`Segment.Splits`) when

* the segments written one after the other are the text,
* no literal run is empty, and no two stand next to each other,
* every placeholder is well formed: its id is a run of digits, and a subtype is
  not empty and has no percent sign, and
* no percent sign inside a literal run begins a well-formed placeholder in the
  text from there on.

`Placeholder.read?` finds exactly the well-formed placeholders at the start of a
text (`Placeholder.read?_eq_some_iff`).  So a literal run is passed over character
by character (`Segment.parseFrom_literal`), a placeholder is taken as a whole
(`Segment.parseFrom_person`), and the parse is the only list that splits its text
(`Segment.parse_eq_iff_splits`).
-/

import Alternation.Render.Placeholder
import Mathlib.Data.List.TakeWhile

namespace Alternation

/-- The text is made of digits. -/
def DigitsOnly (id : String) : Prop := ∀ c ∈ id.toList, c.isDigit

namespace Placeholder

/-! ## What is read at the start of a text -/

/-- The id is a run of digits; a subtype is not empty and has no percent sign. -/
structure WellFormed (p : Placeholder) : Prop where
  id_ne : p.id ≠ ""
  id_digits : DigitsOnly p.id
  subtype_ne : ∀ s ∈ p.subtype, s ≠ "" ∧ '%' ∉ s.toList

/-- A well-formed placeholder stands at the start of the text. -/
def Begins (cs : List Char) : Prop := ∃ p : Placeholder, p.WellFormed ∧ p.source <+: cs

/-- A start is found where it stands. -/
theorem after?_append (ps rest : List Char) : after? ps (ps ++ rest) = some rest := by
  induction ps with
  | nil => rfl
  | cons p ps ih => simpa [after?] using ih

/-- A placeholder that is read with a subtype is well-formed. -/
theorem wellFormed_of_readSubtype {id cs rest : List Char} {p : Placeholder} (hid : id ≠ [])
    (digits : ∀ c ∈ id, c.isDigit) (h : readSubtype id cs = some (p, rest)) : p.WellFormed := by
  unfold readSubtype at h
  split at h
  · simp at h
  · split at h
    · simp at h
    · rename_i hne
      obtain ⟨rfl, -⟩ := Prod.mk.inj (Option.some.inj h)
      refine ⟨by simpa using hid, by simpa [DigitsOnly] using digits, ?_⟩
      intro s hs
      obtain rfl := Option.some.inj hs
      refine ⟨by simpa using hne, fun hmem => ?_⟩
      rw [String.toList_ofList] at hmem
      simpa using List.mem_takeWhile_imp hmem

/-- A placeholder whose end is read is well-formed. -/
theorem wellFormed_of_readEnd {id cs rest : List Char} {p : Placeholder} (hid : id ≠ [])
    (digits : ∀ c ∈ id, c.isDigit) (h : readEnd id cs = some (p, rest)) : p.WellFormed := by
  cases cs with
  | nil => simp [readEnd] at h
  | cons c tail =>
    simp only [readEnd] at h
    split at h
    · obtain ⟨rfl, -⟩ := Prod.mk.inj (Option.some.inj h)
      exact ⟨by simpa using hid, by simpa [DigitsOnly] using digits, by simp⟩
    · split at h
      · exact wellFormed_of_readSubtype hid digits h
      · simp at h

/-- A placeholder that is read is well-formed. -/
theorem wellFormed_of_read? {cs rest : List Char} {p : Placeholder}
    (h : read? cs = some (p, rest)) : p.WellFormed := by
  unfold read? at h
  split at h
  · simp at h
  · split at h
    · simp at h
    · rename_i hne
      exact wellFormed_of_readEnd hne (fun c hc => List.mem_takeWhile_imp hc) h

/-- The end of a well-formed placeholder is read back. -/
theorem readEnd_source {p : Placeholder} (hp : p.WellFormed) (rest : List Char) :
    readEnd p.id.toList ((p.subtype.elim [] fun s => '_' :: s.toList) ++ '%' :: rest) =
      some (p, rest) := by
  obtain ⟨id, subtype⟩ := p
  cases subtype with
  | none => simp [readEnd]
  | some s =>
    obtain ⟨hne, hpercent⟩ := hp.subtype_ne s rfl
    have hrun : ∀ c ∈ s.toList, (c != '%') = true := by
      intro c hc
      simpa using fun h : c = '%' => hpercent (h ▸ hc)
    have htake : (s.toList ++ '%' :: rest).takeWhile (· != '%') = s.toList := by
      rw [List.takeWhile_append_of_pos hrun]
      simp
    have hdrop : (s.toList ++ '%' :: rest).dropWhile (· != '%') = '%' :: rest := by
      rw [List.dropWhile_append_of_pos hrun]
      simp
    have hlist : s.toList ≠ [] := by simpa using hne
    simp [readEnd, readSubtype, htake, hdrop, hlist]

/-- **A well-formed placeholder is read back,** whatever follows it. -/
theorem read?_source {p : Placeholder} (hp : p.WellFormed) (rest : List Char) :
    read? (p.source ++ rest) = some (p, rest) := by
  set tail := (p.subtype.elim [] fun s => '_' :: s.toList) ++ '%' :: rest with htail
  have hsource : p.source ++ rest = opening ++ (p.id.toList ++ tail) := by
    simp [source, htail]
  have hstop : tail.takeWhile Char.isDigit = [] ∧ tail.dropWhile Char.isDigit = tail := by
    rw [htail]
    cases p.subtype <;> simp [Char.isDigit]
  have htake : (p.id.toList ++ tail).takeWhile Char.isDigit = p.id.toList := by
    rw [List.takeWhile_append_of_pos hp.id_digits, hstop.1, List.append_nil]
  have hdrop : (p.id.toList ++ tail).dropWhile Char.isDigit = tail := by
    rw [List.dropWhile_append_of_pos hp.id_digits, hstop.2]
  have hid : p.id.toList ≠ [] := by simpa using hp.id_ne
  simp only [read?, hsource, after?_append, htake, hdrop, hid, if_false]
  exact readEnd_source hp rest

/-- **What is read is what is there:** a well-formed placeholder at the start. -/
theorem read?_eq_some_iff {cs rest : List Char} {p : Placeholder} :
    read? cs = some (p, rest) ↔ p.WellFormed ∧ cs = p.source ++ rest := by
  constructor
  · intro h
    exact ⟨wellFormed_of_read? h, eq_append_of_read? h⟩
  · rintro ⟨hp, rfl⟩
    exact read?_source hp rest

/-- Nothing is read just where no placeholder begins. -/
theorem read?_eq_none_iff {cs : List Char} : read? cs = none ↔ ¬ Begins cs := by
  rw [Option.eq_none_iff_forall_ne_some]
  constructor
  · rintro h ⟨p, hp, rest, rfl⟩
    exact h _ (read?_source hp rest)
  · rintro h ⟨p, rest⟩ hread
    exact h ⟨p, wellFormed_of_read? hread, rest, (eq_append_of_read? hread).symm⟩

/-- A placeholder begins whatever follows it. -/
theorem Begins.append {cs : List Char} (h : Begins cs) (rest : List Char) :
    Begins (cs ++ rest) := by
  obtain ⟨p, hp, hcs⟩ := h
  exact ⟨p, hp, hcs.trans (List.prefix_append _ _)⟩

/-- Every placeholder starts with a percent sign. -/
theorem Begins.head {c : Char} {cs : List Char} (h : Begins (c :: cs)) : c = '%' := by
  obtain ⟨p, -, rest, hcs⟩ := h
  simp only [source, opening, List.cons_append] at hcs
  exact (List.cons.inj hcs).1.symm

end Placeholder

namespace Segment

/-! ## Splits of a text -/

/-- No percent sign of the run begins a placeholder in the run and what follows it. -/
def Free (run after : List Char) : Prop :=
  ∀ start rest, run = start ++ '%' :: rest → ¬ Placeholder.Begins ('%' :: rest ++ after)

/-- The segments are the text, cut at its placeholders and nowhere else. -/
structure Splits (segs : List Segment) (text : List Char) : Prop where
  written : segs.flatMap source = text
  literal_ne : ∀ run, .literal run ∈ segs → run ≠ ""
  apart : ∀ before a b after, segs ≠ before ++ .literal a :: .literal b :: after
  wellFormed : ∀ p, .person p ∈ segs → p.WellFormed
  free : ∀ before run after, segs = before ++ .literal run :: after →
    Free run.toList (after.flatMap source)

/-- In the empty run no placeholder begins. -/
theorem free_nil (after : List Char) : Free [] after := by
  intro start rest h
  simp at h

/-- A run is free of placeholders just if none begins at its head and none in its tail. -/
theorem free_cons_iff {c : Char} {run after : List Char} :
    Free (c :: run) after ↔ ¬ Placeholder.Begins (c :: run ++ after) ∧ Free run after := by
  constructor
  · intro h
    refine ⟨fun hb => ?_, fun start rest hrun => h (c :: start) rest (by rw [hrun]; rfl)⟩
    obtain rfl : c = '%' := hb.head
    exact h [] run rfl hb
  · rintro ⟨hc, h⟩ start rest hrun
    cases start with
    | nil =>
      obtain ⟨rfl, rfl⟩ := List.cons.inj hrun
      exact hc
    | cons d start => exact h start rest (List.cons.inj hrun).2

/-- Two runs are free of placeholders just if each is, with what follows it. -/
theorem free_append_iff {a b after : List Char} :
    Free (a ++ b) after ↔ Free a (b ++ after) ∧ Free b after := by
  induction a with
  | nil => simp [free_nil]
  | cons c a ih => simp only [List.cons_append, free_cons_iff, ih, List.append_assoc, and_assoc]

/-- A run that holds no placeholder with what follows it holds none by itself. -/
theorem Free.alone {run after : List Char} (h : Free run after) : Free run [] := by
  intro start rest hrun hb
  rw [List.append_nil] at hb
  exact h start rest hrun (hb.append after)

/-- The empty text has no segments. -/
theorem splits_nil : Splits [] [] where
  written := rfl
  literal_ne := by simp
  apart := by simp
  wellFormed := by simp
  free := by simp

/-- Segments with a placeholder in front are a split just if the others split what follows
it. -/
theorem splits_person_iff {p : Placeholder} {segs : List Segment} {text : List Char} :
    Splits (.person p :: segs) text ↔
      p.WellFormed ∧ ∃ rest, text = p.source ++ rest ∧ Splits segs rest := by
  constructor
  · intro h
    refine ⟨h.wellFormed p (by simp), segs.flatMap source, ?_, rfl, ?_, ?_, ?_, ?_⟩
    · rw [← h.written]
      rfl
    · exact fun run hrun => h.literal_ne run (List.mem_cons_of_mem _ hrun)
    · intro before a b after hsegs
      exact h.apart (.person p :: before) a b after (by rw [hsegs]; rfl)
    · exact fun q hq => h.wellFormed q (List.mem_cons_of_mem _ hq)
    · intro before run after hsegs
      exact h.free (.person p :: before) run after (by rw [hsegs]; rfl)
  · rintro ⟨hp, rest, rfl, h⟩
    refine ⟨?_, ?_, ?_, ?_, ?_⟩
    · rw [List.flatMap_cons, h.written]
      rfl
    · intro run hrun
      exact h.literal_ne run (by simpa using hrun)
    · intro before a b after hsegs
      cases before with
      | nil => simp at hsegs
      | cons s before => exact h.apart before a b after (List.cons.inj hsegs).2
    · intro q hq
      rcases List.mem_cons.1 hq with hq | hq
      · obtain rfl := Segment.person.inj hq
        exact hp
      · exact h.wellFormed q hq
    · intro before run after hsegs
      cases before with
      | nil => simp at hsegs
      | cons s before => exact h.free before run after (List.cons.inj hsegs).2

/-- Segments with a run in front are a split just if no placeholder begins in it, no other
run follows, and the others split the rest. -/
theorem splits_literal_iff {run : String} {segs : List Segment} {text : List Char} :
    Splits (.literal run :: segs) text ↔
      run ≠ "" ∧ (∀ a after, segs ≠ .literal a :: after) ∧
        ∃ rest, text = run.toList ++ rest ∧ Free run.toList rest ∧ Splits segs rest := by
  constructor
  · intro h
    refine ⟨h.literal_ne run (by simp), ?_, segs.flatMap source, ?_, h.free [] run segs rfl,
      rfl, ?_, ?_, ?_, ?_⟩
    · rintro a after rfl
      exact h.apart [] run a after rfl
    · rw [← h.written]
      rfl
    · exact fun a ha => h.literal_ne a (List.mem_cons_of_mem _ ha)
    · intro before a b after hsegs
      exact h.apart (.literal run :: before) a b after (by rw [hsegs]; rfl)
    · exact fun q hq => h.wellFormed q (List.mem_cons_of_mem _ hq)
    · intro before a after hsegs
      exact h.free (.literal run :: before) a after (by rw [hsegs]; rfl)
  · rintro ⟨hne, hapart, rest, rfl, hfree, h⟩
    refine ⟨?_, ?_, ?_, ?_, ?_⟩
    · rw [List.flatMap_cons, h.written]
      rfl
    · intro a ha
      rcases List.mem_cons.1 ha with ha | ha
      · obtain rfl := Segment.literal.inj ha
        exact hne
      · exact h.literal_ne a ha
    · intro before a b after hsegs
      cases before with
      | nil => exact hapart b after (List.cons.inj hsegs).2
      | cons s before => exact h.apart before a b after (List.cons.inj hsegs).2
    · intro q hq
      exact h.wellFormed q (by simpa using hq)
    · intro before a after hsegs
      cases before with
      | nil =>
        obtain ⟨hrun, rfl⟩ := List.cons.inj hsegs
        obtain rfl := Segment.literal.inj hrun
        rw [h.written]
        exact hfree
      | cons s before => exact h.free before a after (List.cons.inj hsegs).2

/-! ## The parse -/

/-- At the end of the text the run before it is put out. -/
theorem parseFrom_nil (run : List Char) : parseFrom run [] = flush run := by
  rw [parseFrom]

/-- Where a placeholder is read, the run before it and the placeholder are put out. -/
theorem parseFrom_of_begins {run cs rest : List Char} {p : Placeholder}
    (h : Placeholder.read? cs = some (p, rest)) :
    parseFrom run cs = flush run ++ .person p :: parseFrom [] rest := by
  cases cs with
  | nil => simp [Placeholder.read?, Placeholder.after?, Placeholder.opening] at h
  | cons c cs =>
    rw [parseFrom]
    split
    · rename_i q tail hq
      obtain ⟨rfl, rfl⟩ := Prod.mk.inj (Option.some.inj (hq.symm.trans h))
      rfl
    · rename_i hnone
      simp [hnone] at h

/-- Where none is read, one more character joins the run. -/
theorem parseFrom_of_not_begins {run cs : List Char} {c : Char}
    (h : Placeholder.read? (c :: cs) = none) : parseFrom run (c :: cs) = parseFrom (c :: run) cs := by
  rw [parseFrom]
  split
  · rename_i q tail hq
    simp [hq] at h
  · rfl

/-- A placeholder is taken as a whole, after the run before it. -/
theorem parseFrom_person {p : Placeholder} (hp : p.WellFormed) (run rest : List Char) :
    parseFrom run (p.source ++ rest) = flush run ++ .person p :: parseFrom [] rest :=
  parseFrom_of_begins (Placeholder.read?_source hp rest)

/-- A run without placeholders is passed over character by character. -/
theorem parseFrom_literal {text after : List Char} (h : Free text after) (run : List Char) :
    parseFrom run (text ++ after) = parseFrom (text.reverse ++ run) after := by
  induction text generalizing run with
  | nil => rfl
  | cons c text ih =>
    obtain ⟨hc, htext⟩ := free_cons_iff.1 h
    have hread := Placeholder.read?_eq_none_iff.2 hc
    rw [List.cons_append] at hread
    rw [List.cons_append, parseFrom_of_not_begins hread, ih htext]
    simp

/-- A run that is not empty is put out as a literal. -/
theorem flush_reverse {run : String} (h : run ≠ "") :
    flush run.toList.reverse = [.literal run] := by
  have hne : run.toList.reverse ≠ [] := by simpa using h
  simp [flush, hne]

/-- There is no other way to split a text than its parse. -/
theorem Splits.eq_parseFrom {segs : List Segment} {text : List Char} (h : Splits segs text) :
    parseFrom [] text = segs := by
  induction segs generalizing text with
  | nil =>
    obtain rfl : [] = text := h.written
    rw [parseFrom_nil]
    rfl
  | cons s segs ih =>
    cases s with
    | person p =>
      obtain ⟨hp, rest, rfl, hrest⟩ := splits_person_iff.1 h
      rw [parseFrom_person hp, ih hrest]
      rfl
    | literal run =>
      obtain ⟨hne, hapart, rest, rfl, hfree, hrest⟩ := splits_literal_iff.1 h
      rw [parseFrom_literal hfree, List.append_nil]
      -- What follows the run is nothing or a placeholder: the run is flushed either way.
      cases segs with
      | nil =>
        obtain rfl : [] = rest := hrest.written
        rw [parseFrom_nil, flush_reverse hne]
      | cons t segs =>
        cases t with
        | literal a => exact absurd rfl (hapart a segs)
        | person p =>
          have hsegs := ih hrest
          obtain ⟨hp, tail, rfl, -⟩ := splits_person_iff.1 hrest
          rw [parseFrom_person hp] at hsegs ⊢
          rw [flush_reverse hne, List.singleton_append, ← hsegs]
          rfl

/-- A run in front of a placeholder that begins none is a segment of the split, unless it is
empty. -/
theorem Splits.cons_flush {p : Placeholder} {segs : List Segment} {run text : List Char}
    (h : Splits (.person p :: segs) text) (hfree : Free run.reverse text) :
    Splits (flush run ++ .person p :: segs) (run.reverse ++ text) := by
  unfold flush
  split
  · rename_i hrun
    rw [hrun]
    exact h
  · rename_i hrun
    refine splits_literal_iff.2 ⟨by simpa using hrun, by simp, text, ?_, ?_, h⟩
    · rw [String.toList_ofList]
    · rw [String.toList_ofList]
      exact hfree

/-- A run at the end that begins none is a split by itself. -/
theorem splits_flush {run : List Char} (hfree : Free run.reverse []) :
    Splits (flush run) run.reverse := by
  unfold flush
  split
  · rename_i hrun
    rw [hrun]
    exact splits_nil
  · rename_i hrun
    refine splits_literal_iff.2 ⟨by simpa using hrun, by simp, [], by simp, ?_, splits_nil⟩
    rw [String.toList_ofList]
    exact hfree

/-- The parse splits its text; the run collected so far must hold no placeholder. -/
theorem splits_parseFrom (run cs : List Char) (hfree : Free run.reverse cs) :
    Splits (parseFrom run cs) (run.reverse ++ cs) := by
  induction run, cs using parseFrom.induct with
  | case1 run =>
    rw [parseFrom_nil, List.append_nil]
    exact splits_flush hfree
  | case2 run c cs p rest hread ih =>
    obtain ⟨hp, hcs⟩ := Placeholder.read?_eq_some_iff.1 hread
    rw [parseFrom_of_begins hread]
    refine Splits.cons_flush (splits_person_iff.2 ⟨hp, rest, hcs, ?_⟩) hfree
    exact ih (free_nil rest)
  | case3 run c cs hread ih =>
    rw [parseFrom_of_not_begins hread]
    have hc : Free [c] cs := free_cons_iff.2 ⟨Placeholder.read?_eq_none_iff.1 hread, free_nil cs⟩
    have hrun : Free (c :: run).reverse cs := by
      rw [List.reverse_cons]
      exact free_append_iff.2 ⟨hfree, hc⟩
    simpa using ih hrun

/-- **What is parsed is a split,** whatever the text. -/
theorem splits_parse (text : String) : Splits (parse text) text.toList :=
  splits_parseFrom [] text.toList (free_nil _)

/-- **A text has one split,** the one that is parsed. -/
theorem Splits.parse_eq {segs : List Segment} {text : String} (h : Splits segs text.toList) :
    parse text = segs :=
  h.eq_parseFrom

/-- The ids of a parse are digits, and its subtypes are well formed. -/
theorem wellFormed_of_mem_parse {text : String} {p : Placeholder}
    (h : .person p ∈ parse text) : p.WellFormed :=
  (splits_parse text).wellFormed p h

/-- **A text splits in one way.**  The parse of a text is the only list of segments
that splits it: nothing is lost, and no placeholder is left inside a literal run.
So a literal run, parsed by itself, is one literal run again. -/
theorem parse_eq_iff_splits (text : String) :
    (∀ segs, parse text = segs ↔ Splits segs text.toList) ∧
      ∀ run, .literal run ∈ parse text → parse run = [.literal run] := by
  refine ⟨fun segs => ⟨?_, Splits.parse_eq⟩, fun run hrun => ?_⟩
  · rintro rfl
    exact splits_parse text
  · obtain ⟨before, after, hsegs⟩ := List.append_of_mem hrun
    have hne := (splits_parse text).literal_ne run hrun
    have hfree := ((splits_parse text).free before run after hsegs).alone
    exact (splits_literal_iff.2 ⟨hne, by simp, [], by simp, hfree, splits_nil⟩).parse_eq

example : parse "50% of %PERSON% and %PERSON2_% saw %PERSON12%" =
    [.literal "50% of %PERSON% and %PERSON2_% saw ", .person ⟨"12", none⟩] := by
  decide +kernel

end Segment
end Alternation
