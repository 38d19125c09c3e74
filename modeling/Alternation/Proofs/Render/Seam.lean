/-
# Placeholders that arise at a seam

`SPEC_FULL` §4.3: `process` replaces every placeholder, once.

Placeholders are replaced once, from left to right, and what is shown for them is not
looked at again.  A run that is literal in the text may end in an unfinished placeholder,
and what is shown right behind it may finish it: `%PERSON1_%PERSON1%%` shows
`%PERSON1_Tom%` (`substitute_leaves_placeholder`).

That is the only way in which a placeholder can arise, as long as no name has a percent
sign.  A placeholder starts with one, so it starts in a literal run; the run by itself is
free of placeholders, so it runs on past the end of the run, and what stands there is a
person (`Segment.Splits.seamed_of_begins`).  So a text none of whose runs before a
placeholder ends in an unfinished one shows a text without placeholders, and to replace
the placeholders in that changes nothing (`person_mem_parse_iff_seamed`).
-/

import Alternation.Proofs.Names.Supply
import Mathlib.Data.List.Chain

namespace Alternation

/-- If two texts glued together are cut elsewhere, the second part of the cut lies in the
second text, or it starts within the first. -/
theorem exists_of_append_eq {x y before after : List Char} (h : x ++ y = before ++ after) :
    (∃ middle, y = middle ++ after) ∨
      ∃ c tail, x = before ++ c :: tail ∧ after = c :: tail ++ y := by
  rcases List.append_eq_append_iff.1 h with ⟨middle, -, hy⟩ | ⟨tail, hx, hafter⟩
  · exact .inl ⟨middle, hy⟩
  · cases tail with
    | nil => exact .inl ⟨[], hafter.symm⟩
    | cons c tail => exact .inr ⟨c, tail, hx, hafter⟩

namespace Placeholder

/-- The text is the beginning of a well-formed placeholder. -/
def Unfinished (cs : List Char) : Prop :=
  cs ≠ [] ∧ ∃ p : Placeholder, p.WellFormed ∧ cs <+: p.source

/-- No placeholder begins at the end of a text. -/
theorem not_begins_nil : ¬ Begins [] := by
  rintro ⟨p, -, hp⟩
  simp [source, opening] at hp

/-- An unfinished placeholder starts with a percent sign, too. -/
theorem Unfinished.head {cs : List Char} (h : Unfinished cs) : '%' ∈ cs := by
  obtain ⟨hne, p, -, hp⟩ := h
  cases cs with
  | nil => exact absurd rfl hne
  | cons c cs =>
    obtain ⟨rest, hsource⟩ := hp
    simp only [source, opening, List.cons_append] at hsource
    rw [(List.cons.inj hsource).1]
    exact List.mem_cons_self ..

end Placeholder

namespace Segment

/-! ## Seams -/

/-- A literal run right before a placeholder has an end that, with all that is shown behind
it, begins a well-formed placeholder. -/
def Seamed (shows : Segment → List Char) (segs : List Segment) : Prop :=
  ∃ front run q rest start c tail, segs = front ++ .literal run :: .person q :: rest ∧
    run.toList = start ++ c :: tail ∧
    Placeholder.Begins (c :: tail ++ (Segment.person q :: rest).flatMap shows)

/-- If a run stands before a placeholder, it does not end in an unfinished one. -/
def Closed : Segment → Segment → Prop
  | .literal run, .person _ =>
    ∀ start tail, run.toList = start ++ tail → ¬ Placeholder.Unfinished tail
  | _, _ => True

/-- No run before a placeholder ends in an unfinished one. -/
def Sealed (segs : List Segment) : Prop := segs.IsChain Closed

/-- A run without percent signs does not. -/
theorem closed_of_not_mem {run : String} (h : '%' ∉ run.toList) (s : Segment) :
    Closed (.literal run) s := by
  cases s with
  | literal other => trivial
  | person q =>
    intro start tail hrun hunfinished
    exact h (hrun ▸ List.mem_append_right start hunfinished.head)

variable {shows : Segment → List Char} {segs : List Segment} {text : List Char}

/-- A seam stays one when a segment is put in front. -/
theorem Seamed.cons (h : Seamed shows segs) (s : Segment) : Seamed shows (s :: segs) := by
  obtain ⟨front, run, q, rest, start, c, tail, rfl, hrun, hbegins⟩ := h
  exact ⟨s :: front, run, q, rest, start, c, tail, rfl, hrun, hbegins⟩

/-- At a seam a placeholder stands in what is shown. -/
theorem Seamed.exists_begins (hliteral : ∀ run, shows (.literal run) = run.toList)
    (h : Seamed shows segs) :
    ∃ before after, segs.flatMap shows = before ++ after ∧ Placeholder.Begins after := by
  obtain ⟨front, run, q, rest, start, c, tail, rfl, hrun, hbegins⟩ := h
  refine ⟨front.flatMap shows ++ start, _, ?_, hbegins⟩
  rw [List.flatMap_append, List.flatMap_cons, hliteral, hrun]
  simp only [List.append_assoc, List.cons_append]

/-- **A placeholder that is shown arises at a seam**, by induction on the segments: none starts
within what is shown for a person, and a run at the end of the text would hold it already. -/
theorem Splits.seamed_of_begins (hliteral : ∀ run, shows (.literal run) = run.toList)
    (hperson : ∀ p, '%' ∉ shows (.person p)) {before after : List Char} (h : Splits segs text)
    (hshown : segs.flatMap shows = before ++ after) (hbegins : Placeholder.Begins after) :
    Seamed shows segs := by
  induction segs generalizing text before with
  | nil =>
    obtain ⟨-, rfl⟩ := List.append_eq_nil_iff.1 hshown.symm
    exact absurd hbegins Placeholder.not_begins_nil
  | cons s rest ih =>
    rw [List.flatMap_cons] at hshown
    cases s with
    | person q =>
      obtain ⟨-, _, -, hrest⟩ := splits_person_iff.1 h
      obtain ⟨middle, hmiddle⟩ | ⟨c, tail, hq, rfl⟩ := exists_of_append_eq hshown
      · exact (ih hrest hmiddle).cons _
      · -- within what is shown for a person there is no percent sign to start with
        obtain rfl := Placeholder.Begins.head hbegins
        exact absurd (hq ▸ List.mem_append_right before (List.mem_cons_self ..)) (hperson q)
    | literal run =>
      obtain ⟨-, hapart, behind, -, hfree, hrest⟩ := splits_literal_iff.1 h
      rw [hliteral] at hshown
      obtain ⟨middle, hmiddle⟩ | ⟨c, tail, hrun, rfl⟩ := exists_of_append_eq hshown
      · exact (ih hrest hmiddle).cons _
      · -- within a run: the run ends the text and is free of placeholders, or a person follows
        cases rest with
        | nil =>
          obtain rfl := Placeholder.Begins.head hbegins
          rw [List.flatMap_nil, List.append_nil] at hbegins
          exact absurd (hbegins.append behind) (hfree before tail hrun)
        | cons t rest =>
          cases t with
          | literal other => exact absurd rfl (hapart other rest)
          | person q => exact ⟨[], run, q, rest, before, c, tail, rfl, hrun, hbegins⟩

/-- **Without unfinished placeholders there are no seams:** what begins behind a run that
is closed would stand in the run already. -/
theorem Splits.not_seamed (h : Splits segs text) (hsealed : Sealed segs) :
    ¬ Seamed shows segs := by
  rintro ⟨front, run, q, rest, start, c, tail, rfl, hrun, p, hp, hprefix⟩
  have hclosed : Closed (.literal run) (.person q) := (List.isChain_append_cons_cons.1 hsealed).2.1
  have htail : c :: tail <+: c :: tail ++ (Segment.person q :: rest).flatMap shows :=
    List.prefix_append _ _
  rcases List.prefix_or_prefix_of_prefix htail hprefix with hshort | hlong
  · exact hclosed start (c :: tail) hrun ⟨List.cons_ne_nil c tail, p, hp, hshort⟩
  · have hbegins : Placeholder.Begins (c :: tail) := ⟨p, hp, hlong⟩
    obtain rfl := hbegins.head
    exact h.free front run _ rfl start tail hrun (hbegins.append _)

/-! ## Texts without placeholders -/

/-- A text without placeholders is one run, unless it is empty. -/
theorem parse_eq_of_no_person {text : String} (h : ∀ p, .person p ∉ parse text) :
    parse text = [] ∧ text = "" ∨ parse text = [.literal text] := by
  have hsplits := splits_parse text
  rcases hparse : parse text with _ | ⟨s, rest⟩
  · rw [hparse] at hsplits
    exact .inl ⟨rfl, String.toList_inj.1 hsplits.written.symm⟩
  · rw [hparse] at h hsplits
    cases s with
    | person p => exact absurd (List.mem_cons_self ..) (h p)
    | literal run =>
      obtain ⟨-, hapart, behind, htext, -, hrest⟩ := splits_literal_iff.1 hsplits
      cases rest with
      | nil =>
        obtain rfl : [] = behind := hrest.written
        rw [List.append_nil] at htext
        exact .inr (by rw [String.toList_inj.1 htext])
      | cons t rest =>
        cases t with
        | literal other => exact absurd rfl (hapart other rest)
        | person p => exact absurd (by simp) (h p)

/-- **A text mentions somebody** just if a well-formed placeholder stands in it anywhere. -/
theorem exists_person_iff_begins {text : String} :
    (∃ p, .person p ∈ parse text) ↔
      ∃ before after, text.toList = before ++ after ∧ Placeholder.Begins after := by
  constructor
  · rintro ⟨p, hp⟩
    obtain ⟨front, rest, hparse⟩ := List.append_of_mem hp
    have hsplits := splits_parse text
    refine ⟨front.flatMap source, (Segment.person p :: rest).flatMap source, ?_, p,
      hsplits.wellFormed p hp, List.prefix_append _ _⟩
    rw [← hsplits.written, hparse, List.flatMap_append]
  · rintro ⟨before, after, htext, hbegins⟩
    by_contra hnone
    have hsplits := splits_parse text
    rcases parse_eq_of_no_person (not_exists.1 hnone) with ⟨-, rfl⟩ | hparse
    · obtain ⟨-, rfl⟩ := List.append_eq_nil_iff.1 htext.symm
      exact Placeholder.not_begins_nil hbegins
    · obtain ⟨-, -, hfree⟩ := splits_literal_iff.1 (hparse ▸ hsplits)
      cases after with
      | nil => exact Placeholder.not_begins_nil hbegins
      | cons c after =>
        obtain rfl := hbegins.head
        obtain ⟨behind, -, hfree, -⟩ := hfree
        exact hfree before after htext (hbegins.append behind)

end Segment

/-! ## What is shown for a text -/

namespace Cast

variable {corpus : NameCorpus} {cast : Cast}

/-- What the cast shows for a segment. -/
def shows (cast : Cast) (s : Segment) : List Char := ((cast.segment? s).getD "").toList

/-- What segments show under a cast, character by character. -/
theorem toList_of_segments? {segs : List Segment} {text : String}
    (h : cast.segments? segs = some text) : text.toList = segs.flatMap cast.shows := by
  induction segs generalizing text with
  | nil =>
    obtain rfl := Option.some.inj h
    rfl
  | cons s rest ih =>
    obtain ⟨first, others, hfirst, hothers, rfl⟩ := segments?_cons_eq_some_iff.1 h
    rw [String.toList_append, List.flatMap_cons, ← ih hothers, shows, hfirst, Option.getD_some]

/-- No possessive has a percent sign. -/
theorem percent_not_mem_possessive (gender : Gender) : '%' ∉ gender.possessive.toList := by
  cases gender <;> decide

/-- Nobody shows a percent sign, if no name has one. -/
theorem percent_not_mem_shows (sound : cast.Sound corpus)
    (hnames : ∀ gender, ∀ name ∈ corpus.names gender, '%' ∉ name.toList) (p : Placeholder) :
    '%' ∉ cast.shows (.person p) := by
  have hsome : ∀ text, cast.segment? (.person p) = some text → '%' ∉ text.toList := by
    intro text htext
    obtain ⟨q, hfind, hq⟩ := Option.bind_eq_some_iff.1 htext
    have hmem : q ∈ cast := List.mem_of_find?_eq_some hfind
    unfold Person.text? at hq
    split at hq
    · exact Option.some.inj hq ▸ hnames q.gender q.name (sound.named q hmem)
    · split at hq
      · exact Option.some.inj hq ▸ percent_not_mem_possessive q.gender
      · exact nomatch hq
  unfold shows
  cases htext : cast.segment? (.person p) with
  | none => exact List.not_mem_nil
  | some text => exact hsome text htext

end Cast

/-- Where nobody is mentioned, nothing is drawn and nothing changes. -/
theorem yields_substitute_of_no_person {σ : Type} [RandomSource σ] (corpus : NameCorpus)
    {text : String} (h : ∀ p, .person p ∉ Segment.parse text) (scene : Scene σ) :
    Yields (Rendering.substitute corpus text) scene text scene := by
  unfold Rendering.substitute
  rcases Segment.parse_eq_of_no_person h with ⟨hparse, rfl⟩ | hparse
  · rw [hparse]
    exact yields_pure_iff.2 ⟨rfl, rfl⟩
  · rw [hparse]
    refine yields_bind_iff.2 ⟨text, scene, yields_pure_iff.2 ⟨rfl, rfl⟩,
      yields_bind_iff.2 ⟨"", scene, yields_pure_iff.2 ⟨rfl, rfl⟩, yields_pure_iff.2 ⟨?_, rfl⟩⟩⟩
    exact String.append_empty.symm

/-- **Where placeholders are left.**  Take a corpus whose names have no percent sign, any
bindings that a history leads to, and a text that is rendered.  What is shown mentions
somebody just if there is a seam: a run right before a placeholder has an end that begins a
placeholder with what is shown behind it.  So nobody is mentioned if no such run ends in an
unfinished placeholder; and where nobody is mentioned, to render what is shown changes
nothing. -/
theorem person_mem_parse_iff_seamed {σ : Type} [RandomSource σ] {corpus : NameCorpus}
    (hnames : ∀ gender, ∀ name ∈ corpus.names gender, '%' ∉ name.toList) {b : Bindings}
    (hb : b.ReachedByDigits σ corpus) {text out : String} {source : σ} {scene : Scene σ}
    (hrun : Yields (Rendering.substitute corpus text) ⟨b, source⟩ out scene) :
    (∃ cast : Cast, cast.Sound corpus ∧ scene.bindings.Records cast ∧
      out.toList = (Segment.parse text).flatMap cast.shows ∧
      ((∃ p, .person p ∈ Segment.parse out) ↔
        Segment.Seamed cast.shows (Segment.parse text))) ∧
      (Segment.Sealed (Segment.parse text) → ∀ p, .person p ∉ Segment.parse out) ∧
      ((∀ p, .person p ∉ Segment.parse out) → ∀ again : Scene σ,
        Yields (Rendering.substitute corpus out) again out again) := by
  obtain ⟨before, soundBefore, recordsBefore⟩ := hb.exists_cast
  obtain ⟨more, records, sound, hexpand⟩ :=
    casts_substitute text before _ out scene recordsBefore soundBefore hrun
  have hshown := Cast.toList_of_segments? (hexpand [])
  rw [List.append_nil] at hshown
  have hsplits := Segment.splits_parse text
  have hseamed : (∃ p, .person p ∈ Segment.parse out) ↔
      Segment.Seamed (Cast.shows (before ++ more)) (Segment.parse text) := by
    rw [Segment.exists_person_iff_begins, hshown]
    constructor
    · rintro ⟨front, behind, hcut, hbegins⟩
      exact hsplits.seamed_of_begins (fun _ => rfl) (Cast.percent_not_mem_shows sound hnames)
        hcut hbegins
    · exact Segment.Seamed.exists_begins fun _ => rfl
  exact ⟨⟨before ++ more, sound, records, hshown, hseamed⟩,
    fun hsealed p hp => hsplits.not_seamed hsealed (hseamed.1 ⟨p, hp⟩),
    yields_substitute_of_no_person corpus⟩

/-- Neither Tom nor Ann has a percent sign. -/
theorem NameCorpus.tomAndAnn_plain (gender : Gender) :
    ∀ name ∈ tomAndAnn.names gender, '%' ∉ name.toList := by
  cases gender <;> decide

/-- Tom and Ann: a percent sign is left, but no placeholder. -/
theorem person_mem_parse_iff_seamed_of_tomAndAnn :
    ∃ scene : Scene Random.Script,
      Yields (Rendering.substitute .tomAndAnn "%PERSON1% and %PERSON2% own 50% of %PERSON% each")
        ⟨.empty, ⟨[0, 0, 1, 0]⟩⟩ "Tom and Ann own 50% of %PERSON% each" scene ∧
      (∀ p, .person p ∉ Segment.parse "Tom and Ann own 50% of %PERSON% each") ∧
      ∀ again : Scene Random.Script,
        Yields (Rendering.substitute .tomAndAnn "Tom and Ann own 50% of %PERSON% each") again
          "Tom and Ann own 50% of %PERSON% each" again := by
  have hrun : Yields (Rendering.substitute .tomAndAnn
      "%PERSON1% and %PERSON2% own 50% of %PERSON% each")
        (⟨.empty, ⟨[0, 0, 1, 0]⟩⟩ : Scene Random.Script)
        "Tom and Ann own 50% of %PERSON% each" _ := Prod.ext (by decide +kernel) rfl
  have hreached : Bindings.empty.ReachedByDigits Random.Script .tomAndAnn := ⟨[], ⟨[]⟩, List.forall_mem_nil _, rfl⟩
  have hparse : Segment.parse "%PERSON1% and %PERSON2% own 50% of %PERSON% each" =
      [.person ⟨"1", none⟩, .literal " and ", .person ⟨"2", none⟩,
        .literal " own 50% of %PERSON% each"] := by decide +kernel
  have hsealed : Segment.Sealed
      (Segment.parse "%PERSON1% and %PERSON2% own 50% of %PERSON% each") := by
    rw [hparse]
    exact .cons_cons trivial (.cons_cons (Segment.closed_of_not_mem (by decide) _)
      (.cons_cons trivial (.singleton _)))
  obtain ⟨-, hnone, hagain⟩ :=
    person_mem_parse_iff_seamed NameCorpus.tomAndAnn_plain hreached hrun
  exact ⟨_, hrun, hnone hsealed, hagain (hnone hsealed)⟩

/-- A run that ends in `%PERSON1_` takes the name behind it for a subtype: what is shown
has a placeholder, and to render it again fails. -/
theorem substitute_leaves_placeholder :
    (∀ gender, ∀ name ∈ NameCorpus.tomAndAnn.names gender, '%' ∉ name.toList) ∧
      ∃ scene : Scene Random.Script,
        Yields (Rendering.substitute .tomAndAnn "%PERSON1_%PERSON1%%") ⟨.empty, ⟨[]⟩⟩
          "%PERSON1_Tom%" scene ∧
        .person ⟨"1", some "Tom"⟩ ∈ Segment.parse "%PERSON1_Tom%" ∧
        ((Rendering.substitute .tomAndAnn "%PERSON1_Tom%").run.run scene).1 =
          .error (.unknownSubtype "1" "Tom") := by
  have hrun : Yields (Rendering.substitute .tomAndAnn "%PERSON1_%PERSON1%%")
      (⟨.empty, ⟨[]⟩⟩ : Scene Random.Script) "%PERSON1_Tom%" _ := Prod.ext (by decide +kernel) rfl
  have hparse : Segment.parse "%PERSON1_Tom%" = [.person ⟨"1", some "Tom"⟩] := by decide +kernel
  exact ⟨NameCorpus.tomAndAnn_plain, _, hrun, hparse ▸ List.mem_cons_self .., by decide +kernel⟩

end Alternation
