/-
# The comma that closes a phrase

`SPEC_FULL` §4.6, spray-load family: trailing commas of the inner noun phrase are
stripped by `all_sentences`.

A heavy phrase is closed by a comma where the sentence goes on: "the wall of the old barn,
with paint".  Where the phrase ends the sentence, `SprayLoad.complement` takes the commas
off its ends.

The commas are taken off before the blanks are, so a comma with a blank behind it stays, and
the full stop is set after it (`SprayLoad.KeepsComma`).  That is the only way, besides a
phrase that ends in `,.` itself, for a sentence to end in `,.`
(`SprayLoad.end_of_allSentences`).
-/

import Alternation.Experiment.SprayLoad
import Alternation.Proofs.Text.Sentence

namespace Alternation

/-! ## The end of a sentence -/

/-- What a list with one more element ends in. -/
theorem pair_suffix_concat_iff {α : Type} {a b c : α} {xs : List α} :
    [a, b] <:+ xs ++ [c] ↔ [a] <:+ xs ∧ b = c := by
  constructor
  · rintro ⟨front, h⟩
    have hends : (front ++ [a]) ++ [b] = xs ++ [c] := by simpa using h
    obtain ⟨rfl, hlast⟩ := List.append_inj' hends rfl
    exact ⟨List.suffix_append .., List.singleton_inj.1 hlast⟩
  · rintro ⟨⟨front, rfl⟩, rfl⟩
    exact ⟨front, by simp⟩

namespace Phrase

/-- Only the last part of a clause tells how it is closed. -/
theorem closed_append (front : List Char) {back : List Char} (h : back ≠ []) :
    closed (front ++ back) = front ++ closed back := by
  have hlast : isClosed (front ++ back) = isClosed back := by
    rw [isClosed, isClosed, List.getLast?_append_of_ne_nil _ h]
  rw [closed, closed, hlast]
  split
  · rfl
  · rw [List.append_assoc]

/-- A closed clause has a full stop at least. -/
theorem closed_ne_nil (cs : List Char) : closed cs ≠ [] := by
  obtain ⟨last, hlast, -⟩ := exists_isTerminal_closed cs
  exact List.ne_nil_of_mem (List.mem_of_mem_getLast? hlast)

/-- A sentence ends as its clause does, with a full stop if need be. -/
theorem exists_sentence_eq {s t : String} (hs : Text.Tight s) (ht : Text.Tight t) :
    ∃ front, (sentence (s ++ " " ++ t)).toList = front ++ ' ' :: closed t.toList := by
  obtain ⟨first, hfirst, -⟩ := hs.starts
  obtain ⟨rest, hrest⟩ := List.head?_eq_some_iff.1 hfirst
  have hne : t.toList ≠ [] := fun hnil => ht.ne_empty (String.toList_eq_nil_iff.1 hnil)
  refine ⟨Text.upper first ++ rest, ?_⟩
  rw [sentence, (hs.glue ht " ").trim_eq, String.toList_ofList, String.toList_append,
    String.toList_append, hrest]
  show closed (Text.upper first ++ (rest ++ [' '] ++ t.toList)) = _
  rw [← List.append_assoc, closed_append _ hne]
  simp

/-- Behind a space, a comma and a full stop end the sentence just if they end its last words. -/
theorem comma_stop_iff_of_space {front back : List Char} (h : back ≠ []) :
    [',', '.'] <:+ front ++ ' ' :: back ↔ [',', '.'] <:+ back := by
  obtain ⟨init, last, rfl⟩ := (List.eq_nil_or_concat' back).resolve_left h
  rw [← List.cons_append, ← List.append_assoc, pair_suffix_concat_iff, pair_suffix_concat_iff,
    List.singleton_suffix_iff_getLast?_eq_some, List.singleton_suffix_iff_getLast?_eq_some]
  refine and_congr_left fun _ => ?_
  cases hlast : init.getLast? <;> simp [List.getLast?_append, List.getLast?_cons, hlast]

/-- What is closed ends in a comma and a full stop if it ends in a comma, or in both. -/
theorem comma_stop_closed_iff (cs : List Char) :
    [',', '.'] <:+ closed cs ↔ [','] <:+ cs ∨ [',', '.'] <:+ cs := by
  have hcomma (front : List Char) : isClosed (front ++ [',']) = false := by
    simp [isClosed, isTerminal]
  have hstop (front : List Char) : isClosed (front ++ [',', '.']) = true := by
    simp [isClosed, isTerminal]
  unfold closed
  split
  · rename_i hclosed
    refine ⟨.inr, fun h => h.resolve_left ?_⟩
    rintro ⟨front, rfl⟩
    exact Bool.false_ne_true ((hcomma front).symm.trans hclosed)
  · rename_i hopen
    rw [pair_suffix_concat_iff]
    refine ⟨fun h => .inl h.1, fun h => ⟨h.resolve_right ?_, rfl⟩⟩
    rintro ⟨front, rfl⟩
    exact hopen (hstop front)

end Phrase

namespace SprayLoad

/-! ## The phrase that ends the sentence -/

/-- The phrases of the lexical slots, light and heavy. -/
def phrases (lexicon : SprayLoadLexicon) : List String :=
  [lexicon.theme.light, lexicon.theme.heavy, lexicon.location.light, lexicon.location.heavy]

/-- Some character of the phrase is neither a comma nor blank. -/
def HasText (phrase : String) : Prop :=
  ∃ c ∈ phrase.toList, c ≠ ',' ∧ Text.isBlank c = false

instance (phrase : String) : Decidable (HasText phrase) :=
  List.decidableBEx (fun c => c ≠ ',' ∧ Text.isBlank c = false) phrase.toList

/-- The phrase that ends the sentence. -/
def lastPhrase (lexicon : SprayLoadLexicon) (choice : Choice) : String :=
  if choice.themeObject then lexicon.location.pick choice.locationHeavy
  else lexicon.theme.pick choice.themeHeavy

/-- The phrase without the commas at its ends, and then without the blanks. -/
def bare (phrase : String) : String := Text.trimmed (withoutCommas phrase)

/-- Without commas and blanks at its ends, a phrase with text in it is not empty. -/
theorem bare_ne_empty {phrase : String} (h : HasText phrase) : bare phrase ≠ "" := by
  obtain ⟨c, hmem, hcomma, hblank⟩ := h
  have hstrip : c ∈ (withoutCommas phrase).toList := by
    rw [withoutCommas, String.toList_ofList]
    exact Text.mem_strip hmem (by simpa using hcomma)
  intro hempty
  have hall := (Text.trimmed_eq_empty_iff _).1 hempty c hstrip
  exact Bool.false_ne_true (hblank.symm.trans hall)

/-- Words are left if one of them has text in it. -/
theorem kept_ne_nil_of_hasText {phrase : String} {words : List String} (h : HasText phrase)
    (hmem : phrase ∈ words) : Text.kept words ≠ [] := by
  obtain ⟨c, hc, -, hblank⟩ := h
  rw [ne_eq, Text.kept_eq_nil_iff]
  intro hall
  have hblank' := (Text.trimmed_eq_empty_iff _).1 (hall phrase hmem) c hc
  exact Bool.false_ne_true (hblank.symm.trans hblank')

section

variable {lexicon : SprayLoadLexicon} (h : ∀ phrase ∈ phrases lexicon, HasText phrase)
  (choice : Choice)

include h

/-- The theme has text in it, light or heavy. -/
theorem hasText_theme (heavy : Bool) : HasText (lexicon.theme.pick heavy) := by
  cases heavy <;> exact h _ (by simp [phrases, WeightedPhrase.pick])

/-- The location has text in it, light or heavy. -/
theorem hasText_location (heavy : Bool) : HasText (lexicon.location.pick heavy) := by
  cases heavy <;> exact h _ (by simp [phrases, WeightedPhrase.pick])

/-- The phrase that ends the sentence has text in it. -/
theorem hasText_lastPhrase : HasText (lastPhrase lexicon choice) := by
  unfold lastPhrase
  split
  · exact hasText_location h _
  · exact hasText_theme h _

/-- The words after the verb, the last phrase behind the others. -/
theorem exists_complement_eq : ∃ words, Text.kept words ≠ [] ∧
    complement lexicon choice =
      Phrase.joinWords (words ++ [withoutCommas (lastPhrase lexicon choice)]) := by
  unfold complement lastPhrase
  split
  · exact ⟨[lexicon.theme.pick choice.themeHeavy, lexicon.preposition],
      kept_ne_nil_of_hasText (hasText_theme h _) (List.mem_cons_self ..), rfl⟩
  · exact ⟨[lexicon.location.pick choice.locationHeavy, "with"],
      kept_ne_nil_of_hasText (hasText_location h _) (List.mem_cons_self ..), rfl⟩

/-- **A sentence ends in its last phrase,** without the commas and blanks at the ends of it,
and with a full stop if need be. -/
theorem exists_sentenceOf_eq : ∃ front, (sentenceOf lexicon choice).toList =
    front ++ ' ' :: Phrase.closed (bare (lastPhrase lexicon choice)).toList := by
  obtain ⟨words, hwords, hcomplement⟩ := exists_complement_eq h choice
  have hlast := bare_ne_empty (hasText_lastPhrase h choice)
  have hkept : Text.kept ([lexicon.subject, lexicon.verb.pastSimple] ++ words) ≠ [] := by
    rw [Text.kept_append]
    exact List.append_ne_nil_of_right_ne_nil _ hwords
  have hclause : Phrase.joinWords
      [lexicon.subject, lexicon.verb.pastSimple, complement lexicon choice] =
        Phrase.joinWords ([lexicon.subject, lexicon.verb.pastSimple] ++ words) ++ " " ++
          bare (lastPhrase lexicon choice) := by
    rw [hcomplement, bare, ← Phrase.joinWords_concat hkept hlast]
    have hsplice := Phrase.joinWords_splice [lexicon.subject, lexicon.verb.pastSimple]
      (words ++ [withoutCommas (lastPhrase lexicon choice)]) []
    rw [List.append_nil, List.append_nil] at hsplice
    rw [List.append_assoc]
    exact hsplice
  rw [sentenceOf, hclause]
  exact Phrase.exists_sentence_eq (Phrase.tight_joinWords hkept) (Text.tight_trimmed hlast)

end

/-! ## Commas that stay -/

/-- A comma of the phrase is left where the phrase ends a sentence: there are blanks behind
it, and behind these nothing but commas; or there is a full stop behind it already. -/
inductive KeepsComma (phrase : List Char) : Prop
  | before_blank {front blanks commas : List Char}
      (eq : phrase = front ++ ',' :: blanks ++ commas) (ne_nil : blanks ≠ [])
      (blank : ∀ c ∈ blanks, Text.isBlank c = true) (comma : ∀ c ∈ commas, c = ',')
  | before_stop {front blanks commas : List Char}
      (eq : phrase = front ++ ',' :: '.' :: blanks ++ commas)
      (blank : ∀ c ∈ blanks, Text.isBlank c = true) (comma : ∀ c ∈ commas, c = ',')
      (not_first : ∃ c ∈ front, c ≠ ',')

/-- A comma is not blank. -/
theorem ne_comma_of_isBlank {c : Char} (h : Text.isBlank c = true) : c ≠ ',' := by
  rintro rfl
  exact absurd h (by decide)

/-- **What is left of a phrase ends in `tail`** just if the phrase does, up to blanks and then
commas behind it: the last of these is no comma, and something else than commas stands in
front, or `tail` starts with no comma itself. -/
theorem suffix_bare_iff {phrase : String} {tail : List Char} (hne : tail ≠ [])
    (hhead : ∀ c ∈ tail.head?, Text.isBlank c = false)
    (hlast : ∀ c ∈ tail.getLast?, Text.isBlank c = false) :
    tail <:+ (bare phrase).toList ↔
      ∃ front blanks commas, phrase.toList = front ++ (tail ++ blanks) ++ commas ∧
        (∀ c ∈ blanks, Text.isBlank c = true) ∧ (∀ c ∈ commas, c = ',') ∧
        (∀ c ∈ (tail ++ blanks).getLast?, c ≠ ',') ∧
        ((∃ c ∈ front, c ≠ ',') ∨ ∀ c ∈ tail.head?, c ≠ ',') := by
  have hcommas (blanks : List Char) (hend : ∀ c ∈ (tail ++ blanks).getLast?, c ≠ ',') :
      tail ++ blanks <:+ (withoutCommas phrase).toList ↔
        ∃ front commas, phrase.toList = front ++ (tail ++ blanks) ++ commas ∧
          (∀ c ∈ commas, c = ',') ∧ ((∃ c ∈ front, c ≠ ',') ∨ ∀ c ∈ tail.head?, c ≠ ',') := by
    rw [withoutCommas, String.toList_ofList,
      Text.suffix_strip_iff (List.append_ne_nil_of_left_ne_nil hne _) (by simpa using hend),
      List.head?_append_of_ne_nil _ hne]
    simp
  rw [bare, Text.trimmed, String.toList_ofList, Text.trim, Text.suffix_strip_iff hne hlast]
  constructor
  · rintro ⟨front, blanks, hphrase, hblanks, -⟩
    have hsuffix : tail ++ blanks <:+ (withoutCommas phrase).toList :=
      ⟨front, by rw [hphrase, List.append_assoc]⟩
    have hend : ∀ c ∈ (tail ++ blanks).getLast?, c ≠ ',' := by
      intro c hc
      obtain ⟨before, hbefore⟩ := hsuffix
      have hstrip : c ∈ (before ++ (tail ++ blanks)).getLast? :=
        List.mem_getLast?_append_of_mem_getLast? hc
      rw [hbefore, withoutCommas, String.toList_ofList] at hstrip
      simpa using Text.getLast_strip hstrip
    obtain ⟨front, commas, hphrase, hcomma, hstart⟩ := (hcommas blanks hend).1 hsuffix
    exact ⟨front, blanks, commas, hphrase, hblanks, hcomma, hend, hstart⟩
  · rintro ⟨front, blanks, commas, hphrase, hblanks, hcomma, hend, hstart⟩
    obtain ⟨before, hbefore⟩ :=
      (hcommas blanks hend).2 ⟨front, commas, hphrase, hcomma, hstart⟩
    exact ⟨before, blanks, by rw [← hbefore, List.append_assoc], hblanks, .inr hhead⟩

/-- A comma is left just if blanks stand behind it, and then commas or nothing. -/
theorem comma_suffix_bare_iff {phrase : String} (h : HasText phrase) :
    [','] <:+ (bare phrase).toList ↔
      ∃ front blanks commas, phrase.toList = front ++ ',' :: blanks ++ commas ∧ blanks ≠ [] ∧
        (∀ c ∈ blanks, Text.isBlank c = true) ∧ ∀ c ∈ commas, c = ',' := by
  rw [suffix_bare_iff (List.cons_ne_nil _ _) (by simp; decide) (by simp; decide)]
  constructor
  · rintro ⟨front, blanks, commas, hphrase, hblanks, hcommas, hend, -⟩
    refine ⟨front, blanks, commas, hphrase, ?_, hblanks, hcommas⟩
    rintro rfl
    exact hend ',' rfl rfl
  · rintro ⟨front, blanks, commas, hphrase, hne, hblanks, hcommas⟩
    refine ⟨front, blanks, commas, hphrase, hblanks, hcommas, fun c hc => ?_, .inl ?_⟩
    · rw [List.getLast?_append_of_ne_nil _ hne] at hc
      exact ne_comma_of_isBlank (hblanks c (List.mem_of_mem_getLast? hc))
    · -- what is neither a comma nor blank stands in front
      obtain ⟨c, hc, hcomma, hblank⟩ := h
      simp only [hphrase, List.mem_append, List.mem_cons] at hc
      rcases hc with (hfront | rfl | hmem) | hmem
      · exact ⟨c, hfront, hcomma⟩
      · exact absurd rfl hcomma
      · exact absurd (hblanks c hmem) (by simp [hblank])
      · exact absurd (hcommas c hmem) hcomma

/-- A comma and a full stop are left just if they stand at the end of the phrase. -/
theorem comma_stop_suffix_bare_iff {phrase : String} :
    [',', '.'] <:+ (bare phrase).toList ↔
      ∃ front blanks commas, phrase.toList = front ++ ',' :: '.' :: blanks ++ commas ∧
        (∀ c ∈ blanks, Text.isBlank c = true) ∧ (∀ c ∈ commas, c = ',') ∧
          ∃ c ∈ front, c ≠ ',' := by
  rw [suffix_bare_iff (List.cons_ne_nil _ _) (by simp; decide) (by simp; decide)]
  constructor
  · rintro ⟨front, blanks, commas, hphrase, hblanks, hcommas, -, hstart⟩
    exact ⟨front, blanks, commas, hphrase, hblanks, hcommas, hstart.resolve_right (by simp)⟩
  · rintro ⟨front, blanks, commas, hphrase, hblanks, hcommas, hfirst⟩
    refine ⟨front, blanks, commas, hphrase, hblanks, hcommas, fun c hc => ?_, .inl hfirst⟩
    have hlast : c ∈ ('.' :: blanks).getLast? := by
      rwa [← List.getLast?_append_of_ne_nil [','] (List.cons_ne_nil _ _)]
    rcases List.mem_cons.1 (List.mem_of_mem_getLast? hlast) with rfl | hmem
    · decide
    · exact ne_comma_of_isBlank (hblanks c hmem)

/-- **A comma stays** just if what is left of the phrase ends in it, or in it and a full
stop. -/
theorem keepsComma_iff {phrase : String} (h : HasText phrase) :
    KeepsComma phrase.toList ↔
      [','] <:+ (bare phrase).toList ∨ [',', '.'] <:+ (bare phrase).toList := by
  rw [comma_suffix_bare_iff h, comma_stop_suffix_bare_iff]
  constructor
  · rintro (⟨hphrase, hne, hblanks, hcommas⟩ | ⟨hphrase, hblanks, hcommas, hfirst⟩)
    · exact .inl ⟨_, _, _, hphrase, hne, hblanks, hcommas⟩
    · exact .inr ⟨_, _, _, hphrase, hblanks, hcommas, hfirst⟩
  · rintro (⟨_, _, _, hphrase, hne, hblanks, hcommas⟩ | ⟨_, _, _, hphrase, hblanks, hcommas, hfirst⟩)
    · exact .before_blank hphrase hne hblanks hcommas
    · exact .before_stop hphrase hblanks hcommas hfirst

/-! ## The eight sentences -/

/-- **How a sentence ends.**  Where every phrase has some text in it, each of the eight
sentences ends in its last phrase, without the commas at the ends of that phrase and then
without the blanks, and with a full stop if need be.  It ends in a comma and a full stop just
if the phrase keeps its comma: only if blanks stand behind the comma, or if the phrase has the
full stop itself. -/
theorem end_of_allSentences {lexicon : SprayLoadLexicon}
    (h : ∀ phrase ∈ phrases lexicon, HasText phrase) :
    ∀ entry ∈ allSentences lexicon, ∃ choice : Choice, entry.1 = choice.key ∧
      (∃ front, entry.2.toList =
        front ++ ' ' :: Phrase.closed (bare (lastPhrase lexicon choice)).toList) ∧
      ([',', '.'] <:+ entry.2.toList ↔ KeepsComma (lastPhrase lexicon choice).toList) := by
  intro entry hentry
  obtain ⟨choice, -, rfl⟩ := List.mem_map.1 hentry
  obtain ⟨front, hfront⟩ := exists_sentenceOf_eq h choice
  refine ⟨choice, rfl, ⟨front, hfront⟩, ?_⟩
  dsimp only
  rw [hfront, Phrase.comma_stop_iff_of_space (Phrase.closed_ne_nil _),
    Phrase.comma_stop_closed_iff, keepsComma_iff (hasText_lastPhrase h choice)]

/-- Mary sprays paint on a wall; the heavy phrase for the wall is given. -/
def paintedBarn (heavy : String) : SprayLoadLexicon where
  images := []
  subject := "Mary"
  theme := ⟨"paint", "paint from the old garage,", false⟩
  location := ⟨"the wall", heavy, false⟩
  verb := ⟨"spray", "sprays", "sprayed"⟩
  scaleType := "cover"
  preposition := "on"
  promptPreposition := "on"

/-- A comma inside the phrase is left, and the one that closes it is not. -/
theorem end_of_allSentences_of_paintedBarn :
    (∀ phrase ∈ phrases (paintedBarn "the wall of the barn, the old one ,"), HasText phrase) ∧
      ("110", "Mary sprayed paint on the wall of the barn, the old one.") ∈
        allSentences (paintedBarn "the wall of the barn, the old one ,") ∧
      ∃ choice : Choice, "110" = choice.key ∧
        ¬ KeepsComma
          (lastPhrase (paintedBarn "the wall of the barn, the old one ,") choice).toList := by
  have htext : ∀ phrase ∈ phrases (paintedBarn "the wall of the barn, the old one ,"),
      HasText phrase := by decide
  have hmem : ("110", "Mary sprayed paint on the wall of the barn, the old one.") ∈
      allSentences (paintedBarn "the wall of the barn, the old one ,") := by decide +kernel
  obtain ⟨choice, hkey, -, hends⟩ := end_of_allSentences htext _ hmem
  exact ⟨htext, hmem, choice, hkey, fun hkeeps => absurd (hends.2 hkeeps) (by decide +kernel)⟩

/-- **A blank behind the comma keeps it:** every phrase has some text in it, and a sentence
ends in a comma and a full stop. -/
theorem comma_is_kept :
    (∀ phrase ∈ phrases (paintedBarn "the wall of the old barn, "), HasText phrase) ∧
      ∃ entry ∈ allSentences (paintedBarn "the wall of the old barn, "),
        entry.2 = "Mary sprayed paint on the wall of the old barn,." ∧
          [',', '.'] <:+ entry.2.toList := by
  exact ⟨by decide, ("110", "Mary sprayed paint on the wall of the old barn,."), by decide +kernel,
    rfl, by decide +kernel⟩

end SprayLoad
end Alternation
