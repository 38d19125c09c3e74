/-
# Sentences by the key of their condition

`SPEC_FULL` §4.6, spray-load family: the eight sentences of `all_sentences` and their
keys.

A trial of the spray-load alternation carries all eight sentences in a map, and shows one
of them or offers two.  The map is keyed by flags, three digits for the object and the two
weights (`SprayLoad.Choice.key`); a condition has a key of its own, its slots run together
(`Condition.key`).  Where the slots are flags the two agree (`SprayLoad.key_of_ofCondition`),
so a reader of a trial finds the sentence that was shown under the key of the trial's
condition, and the two that were offered under the keys that differ from it in slot 0
(`SprayLoad.sentences_by_key`).  This is said of keys and not of sentences, several of
which may be the same.
-/

import Alternation.Proofs.Experiment.Demand
import Alternation.Proofs.Random.Script
import Alternation.Trial.Json

namespace Alternation

/-! ## Keys -/

namespace Condition

/-- A slot that is read as a flag stands in a key as the digit of the flag. -/
theorem slotKey_of_requireFlag {c : Condition} {index : Nat} {flag : Bool}
    (h : c.requireFlag index = .ok flag) :
    slotKey (c.get? index) = SprayLoad.Choice.digit flag := by
  rw [get?_of_requireFlag h]
  cases flag <;> rfl

/-- The key of a condition with three slots. -/
theorem key_of_arity {c : Condition} (h : c.arity = 3) :
    c.key = slotKey (c.get? 0) ++ slotKey (c.get? 1) ++ slotKey (c.get? 2) := by
  obtain ⟨slots⟩ := c
  obtain ⟨x, y, z, rfl⟩ := List.length_eq_three.1 h
  simp [key, get?, String.join]

end Condition

namespace SprayLoad

/-- The sentence with the theme as object, or with the location, each light or heavy. -/
def sentenceFor (lexicon : SprayLoadLexicon) (themeObject locationHeavy themeHeavy : Bool) :
    String :=
  let location := if locationHeavy then lexicon.location.heavy else lexicon.location.light
  let theme := if themeHeavy then lexicon.theme.heavy else lexicon.theme.light
  Phrase.sentence (Phrase.joinWords [lexicon.subject, lexicon.verb.pastSimple,
    if themeObject then Phrase.joinWords [theme, lexicon.preposition, withoutCommas location]
    else Phrase.joinWords [location, "with", withoutCommas theme]])

/-- The sentence of a choice is the one that its three flags spell out. -/
theorem sentenceOf_eq_sentenceFor (lexicon : SprayLoadLexicon) (o l t : Bool) :
    sentenceOf lexicon ⟨o, l, t⟩ = sentenceFor lexicon o l t := by
  cases o <;> rfl

/-- **The two keys agree**, where the condition names a choice. -/
theorem key_of_ofCondition {c : Condition} {choice : Choice} (harity : c.arity = 3)
    (h : Choice.ofCondition c = .ok choice) : c.key = choice.key := by
  obtain ⟨themeObject, h0, h⟩ := ok_bind_iff.1 h
  obtain ⟨locationHeavy, h1, h⟩ := ok_bind_iff.1 h
  obtain ⟨themeHeavy, h2, h⟩ := ok_bind_iff.1 h
  obtain rfl := Except.ok.inj h
  rw [Condition.key_of_arity harity, Condition.slotKey_of_requireFlag h0,
    Condition.slotKey_of_requireFlag h1, Condition.slotKey_of_requireFlag h2]
  rfl

/-! ## Trials -/

/-- The trial names its condition and carries all sentences of its slots, by key. -/
structure Carries (trial : Trial) (c : Condition) (entries : List (String × String)) : Prop where
  condition : trial.conditionId = .experimental c
  sentences : trial.presentation.sentences = some (.byCondition entries)
  all : ∃ lexicon, trial.lexicon = some (.sprayLoad lexicon) ∧ entries = allSentences lexicon

section

variable {σ : Type} [RandomSource σ] {corpus : NameCorpus} {item : Item} {c : Condition}
  {materialsId : String} {scene scene' : Scene σ} {trial : Trial}

/-- **The sentence that is shown** stands under the key of the condition. -/
theorem shown_by_key {images : Bool} (harity : c.arity = 3)
    (h : Yields (build corpus (.constructionMeaning images) item c materialsId) scene trial
      scene') :
    ∃ entries text, Carries trial c entries ∧ trial.presentation.sentence = some text ∧
      entries.lookup c.key = some text := by
  obtain ⟨lexicon, presentation, itemId, -, hpresent, -, rfl⟩ := yields_build_iff.1 h
  obtain ⟨choice, labels, hchoice, -, rfl⟩ := present_rating_iff.1 hpresent
  refine ⟨allSentences lexicon, sentenceOf lexicon choice, ⟨rfl, rfl, lexicon, rfl, rfl⟩, rfl, ?_⟩
  rw [key_of_ofCondition harity hchoice, lookup_key]

/-- **The sentences that are offered** stand under the keys with the digits of slots 1
and 2, one for each object. -/
theorem offered_by_key (h : Yields (build corpus .weight item c materialsId) scene trial scene') :
    ∃ entries options locationObject themeObject, Carries trial c entries ∧
      trial.presentation.options = some options ∧
      options.toJson = .obj [("0", .str locationObject), ("1", .str themeObject)] ∧
      entries.lookup ("0" ++ Condition.slotKey (c.get? 1) ++ Condition.slotKey (c.get? 2)) =
        some locationObject ∧
      entries.lookup ("1" ++ Condition.slotKey (c.get? 1) ++ Condition.slotKey (c.get? 2)) =
        some themeObject := by
  obtain ⟨lexicon, presentation, itemId, -, hpresent, -, rfl⟩ := yields_build_iff.1 h
  obtain ⟨locationHeavy, themeHeavy, hlocation, htheme, rfl⟩ := present_weight_iff.1 hpresent
  rw [Condition.slotKey_of_requireFlag hlocation, Condition.slotKey_of_requireFlag htheme]
  exact ⟨allSentences lexicon, _, _, _, ⟨rfl, rfl, lexicon, rfl, rfl⟩, rfl, rfl,
    lookup_key lexicon ⟨false, locationHeavy, themeHeavy⟩,
    lookup_key lexicon ⟨true, locationHeavy, themeHeavy⟩⟩

/-- **No slot is to blame** if the condition serves the task. -/
theorem ne_conditionSlot {task : Task} (hserves : Serves task c) (source : σ) (c' : Condition)
    (index : Nat) :
    ((build corpus task item c materialsId).fresh.run.run source).1 ≠
      .error (.conditionSlot c' index) := by
  intro herror
  have hend : Explained item (Serves task c) _
      ((build corpus task item c materialsId).fresh.run.run source).1 :=
    (hinges_build task c materialsId).explained_fresh source
  rw [herror] at hend
  cases hend with
  | item blames _ => exact blames
  | slot hnot => exact hnot hserves

end

/-- **Sentences by key.**  The eight sentences of any slots stand under the eight keys of
three digits, each as its digits say, so that none is looked up in vain.  A trial that is
to be rated shows the sentence under the key of its own condition; a trial with a choice
offers those under 0 and 1 followed by the digits of slots 1 and 2, whatever slot 0 is.  In
neither does a slot make the trial fail. -/
theorem sentences_by_key {σ : Type} [RandomSource σ] (corpus : NameCorpus) (item : Item)
    (materialsId : String) :
    (∀ lexicon : SprayLoadLexicon,
      (allSentences lexicon).map Prod.fst =
        ["000", "001", "010", "011", "100", "101", "110", "111"] ∧
      (∀ o l t : Bool,
        (allSentences lexicon).lookup (Choice.digit o ++ Choice.digit l ++ Choice.digit t) =
          some (sentenceFor lexicon o l t)) ∧
      ∀ choice c, ∃ text, lookup (allSentences lexicon) choice c = .ok text) ∧
    (∀ (images : Bool) (c : Condition), c.arity = 3 → (∀ index < 3, c.HasFlag index) →
      (∀ (scene : Scene σ) trial scene',
        Yields (build corpus (.constructionMeaning images) item c materialsId) scene trial scene' →
          ∃ entries text, Carries trial c entries ∧ trial.presentation.sentence = some text ∧
            entries.lookup c.key = some text) ∧
      ∀ (source : σ) c' index,
        ((build corpus (.constructionMeaning images) item c materialsId).fresh.run.run
          source).1 ≠ .error (.conditionSlot c' index)) ∧
    ∀ c : Condition, c.HasFlag 1 → c.HasFlag 2 →
      (∀ (scene : Scene σ) trial scene',
        Yields (build corpus .weight item c materialsId) scene trial scene' →
          ∃ entries options locationObject themeObject, Carries trial c entries ∧
            trial.presentation.options = some options ∧
            options.toJson = .obj [("0", .str locationObject), ("1", .str themeObject)] ∧
            entries.lookup ("0" ++ Condition.slotKey (c.get? 1) ++ Condition.slotKey (c.get? 2)) =
              some locationObject ∧
            entries.lookup ("1" ++ Condition.slotKey (c.get? 1) ++ Condition.slotKey (c.get? 2)) =
              some themeObject) ∧
      ∀ (source : σ) c' index,
        ((build corpus .weight item c materialsId).fresh.run.run source).1 ≠
          .error (.conditionSlot c' index) := by
  refine ⟨fun lexicon => ⟨rfl, fun o l t => ?_, fun choice c => ⟨_, lookup_allSentences ..⟩⟩,
    fun images c harity hflags => ⟨fun _ _ _ => shown_by_key harity, ?_⟩,
    fun c hlocation htheme => ⟨fun _ _ _ => offered_by_key, ?_⟩⟩
  · rw [← sentenceOf_eq_sentenceFor]
    exact lookup_key lexicon ⟨o, l, t⟩
  · exact ne_conditionSlot ⟨fun _ => hflags 0 (by decide), hflags 1 (by decide),
      hflags 2 (by decide)⟩
  · exact ne_conditionSlot ⟨fun h => absurd rfl h, hlocation, htheme⟩

/-- Somebody paints a wall, in light and in heavy phrases. -/
def paintedWall : Item where
  fields := .ofList <|
    [("id", .int 5), ("T plural?", .null), ("L plural?", .null)] ++
    [("S", "%PERSON1%"), ("T", "paint"), ("T heavy", "paint, thick and red,"), ("V", "spray"),
      ("V pres", "sprays"), ("V past simp", "sprayed"), ("L", "the wall"),
      ("L heavy", "the wall of the barn"), ("P", "on"), ("scale type", "cover")].map
        fun e => (e.1, .text e.2)

/-- The heavy theme loses its last comma where it ends the sentence; where slot 0 is not
set, both objects are offered. -/
theorem sentences_by_key_of_paintedWall :
    (∃ (trial : Trial) (scene : Scene Random.Script),
      Yields (build .tomAndAnn (.constructionMeaning true) paintedWall (.ofDigits [0, 0, 1]) "")
        ⟨.empty, ⟨[]⟩⟩ trial scene ∧
      trial.presentation.sentence = some "Tom sprayed the wall with paint, thick and red." ∧
      ∃ entries, Carries trial (.ofDigits [0, 0, 1]) entries ∧
        entries.lookup "001" = some "Tom sprayed the wall with paint, thick and red.") ∧
    ∃ (trial : Trial) (scene : Scene Random.Script),
      Yields (build .tomAndAnn .weight paintedWall ⟨[none, some 1, some 0]⟩ "")
        ⟨.empty, ⟨[]⟩⟩ trial scene ∧
      trial.presentation.options.map SentenceOptions.texts =
        some ["Tom sprayed the wall of the barn with paint.",
          "Tom sprayed paint on the wall of the barn."] ∧
      ∃ entries locationObject themeObject, Carries trial ⟨[none, some 1, some 0]⟩ entries ∧
        entries.lookup "010" = some locationObject ∧ entries.lookup "110" = some themeObject := by
  obtain ⟨-, hrating, hweight⟩ := sentences_by_key (σ := Random.Script) .tomAndAnn paintedWall ""
  have hshown : ((build .tomAndAnn (.constructionMeaning true) paintedWall (.ofDigits [0, 0, 1])
      "").run.run (⟨.empty, ⟨[]⟩⟩ : Scene Random.Script)).1.map (·.presentation.sentence) =
        .ok (some "Tom sprayed the wall with paint, thick and red.") := by decide +kernel
  have hoffered : ((build .tomAndAnn .weight paintedWall ⟨[none, some 1, some 0]⟩ "").run.run
      (⟨.empty, ⟨[]⟩⟩ : Scene Random.Script)).1.map
        (·.presentation.options.map SentenceOptions.texts) =
          .ok (some ["Tom sprayed the wall of the barn with paint.",
            "Tom sprayed paint on the wall of the barn."]) := by decide +kernel
  constructor
  · obtain ⟨trial, scene, hrun, hsentence⟩ := exists_yields hshown
    obtain ⟨entries, text, hcarries, htext, hlookup⟩ :=
      (hrating true (.ofDigits [0, 0, 1]) rfl (by decide)).1 _ _ _ hrun
    obtain rfl := Option.some.inj (htext.symm.trans hsentence)
    exact ⟨trial, scene, hrun, hsentence, entries, hcarries, hlookup⟩
  · obtain ⟨trial, scene, hrun, htexts⟩ := exists_yields hoffered
    obtain ⟨entries, options, locationObject, themeObject, hcarries, -, -, hlocation, htheme⟩ :=
      (hweight ⟨[none, some 1, some 0]⟩ (by decide) (by decide)).1 _ _ _ hrun
    exact ⟨trial, scene, hrun, htexts, entries, locationObject, themeObject, hcarries, hlocation,
      htheme⟩

end SprayLoad
end Alternation
