/-
# Fillers

`SPEC_FULL` §4.6, filler construction: `BalancedFillers`, `CompletionFillers` and
`SentenceOptionFillers`, each with `render` and `build_fillers`.

Fillers are trials between the experimental ones. `Fillers.build` draws them from
a materials set, exclusion marks notwithstanding.

| kind | drawn from | shows |
| --- | --- | --- |
| `balanced` | the items of each of two rating classes, half and half | a sentence, in one of four formats |
| `completion` | all items | a good and a bad completion of a prefix |
| `options` | all items | a good and a bad sentence |
-/

import Alternation.Experiment.Draw
import Alternation.Text.Phrase
import Alternation.Trial.Basic

namespace Alternation

/-- How a balanced filler is shown. -/
inductive BalancedFormat where
  /-- A sentence and a prompt. -/
  | prompted
  /-- A list of one sentence, and a prompt. -/
  | promptedSequence
  /-- A sentence alone. -/
  | acceptability
  /-- A sentence, a prompt and a slider. -/
  | slider
deriving DecidableEq, Repr

/-- How a prefix and its completion are joined. -/
inductive CompletionJoin where
  /-- By a comma and a conjunction. -/
  | conjoined
  /-- As two sentences. -/
  | sentences
deriving DecidableEq, Repr

/-- A kind of fillers. -/
inductive Fillers where
  | balanced (first second : String) (format : BalancedFormat)
  | completion (join : CompletionJoin)
  | options
deriving DecidableEq, Repr

namespace Fillers

variable {σ : Type} [RandomSource σ] (corpus : NameCorpus)

/-! ## Balanced fillers -/

/-- The label at the lower end of a filler's slider. -/
def leastLabel (scaleType : String) : String :=
  if scaleType = "fill" then "0% / empty" else "0% / not covered at all"

/-- Renders what follows the sentence of a balanced filler. -/
def presentBalanced (item : Item) (text : String) : BalancedFormat → Rendering σ Presentation
  | .prompted => do
    let prompt ← Rendering.process corpus item "prompt"
    return { sentence := some text, prompt := some prompt }
  | .promptedSequence => do
    let prompt ← Rendering.process corpus item "prompt"
    return { sentences := some (.sequence [text]), prompt := some prompt }
  | .acceptability => return { sentence := some text }
  | .slider => do
    let greatest ← Rendering.process corpus item "label_max"
    let scaleType ← Rendering.check (item.requireText "scale type")
    let prompt ← Rendering.process corpus item "prompt"
    return {
      sentence := some text
      prompt := some prompt
      sliderLabels := some (leastLabel scaleType, "100% / " ++ greatest)
      measure := some .slider }

/-- The formats that name the materials set in the trial. -/
def namesMaterials : BalancedFormat → Bool
  | .prompted => false
  | .acceptability => false
  | .promptedSequence => true
  | .slider => true

/-- Renders a balanced filler. -/
def buildBalanced (format : BalancedFormat) (item : Item) (rating materialsId : String) :
    Rendering σ Trial := do
  let text ← Rendering.process corpus item "sentence"
  let presentation ← presentBalanced corpus item (Phrase.sentence text) format
  let itemId ← Rendering.check item.requireId
  return {
    materialsId := if namesMaterials format then some materialsId else none
    itemId
    conditionId := .filler [.text rating]
    lexicon := none
    presentation }

/-- The items of a rating class. -/
def rated (items : List Item) (rating : String) : List Item :=
  items.filter fun item => item.text? "rating" = some rating

/-- Draws items of a rating class, each with the class. -/
def sampleRated (set : MaterialsSet) (rating : String) (n : Nat) :
    Drawing σ (List (Item × String)) := do
  let items ← sampleItems (rated set.items rating) n (set.name ++ " (" ++ rating ++ ")")
  return items.map fun item => (item, rating)

/-! ## Completions and options -/

/-- Renders a completion filler's pair of sentences, and the conjunction between
their parts. -/
def presentCompletion (item : Item) (lead good bad : String) :
    CompletionJoin → Rendering σ Presentation
  | .conjoined => do
    let conj ← Rendering.process corpus item "conj"
    let joined (completion : String) : String :=
      Phrase.sentence (lead ++ ", " ++ conj ++ " " ++ completion)
    return {
      sentences := some (.goodBad ⟨joined good, joined bad⟩)
      conjunction := some conj }
  | .sentences =>
    let joined (completion : String) : String :=
      Phrase.sentence lead ++ " " ++ Phrase.sentence completion
    return { sentences := some (.goodBad ⟨joined good, joined bad⟩) }

/-- Renders a completion filler. -/
def buildCompletion (join : CompletionJoin) (item : Item) (materialsId : String) :
    Rendering σ Trial := do
  let lead ← Rendering.process corpus item "prefix"
  let good ← Rendering.process corpus item "good_completion"
  let bad ← Rendering.process corpus item "bad_completion"
  let presentation ← presentCompletion corpus item lead good bad join
  let itemId ← Rendering.check item.requireId
  let manipulation ← Rendering.check (item.requireValue "manipulation")
  return {
    materialsId := some materialsId
    itemId
    conditionId := .filler [manipulation]
    lexicon := none
    presentation }

/-- Renders a filler with two sentences to choose from. -/
def buildOptions (item : Item) (materialsId : String) : Rendering σ Trial := do
  let good ← Rendering.process corpus item "good_sentence"
  let bad ← Rendering.process corpus item "bad_sentence"
  let itemId ← Rendering.check item.requireId
  let manipulation ← Rendering.check (item.requireValue "manipulation")
  let ungrammatical ← Rendering.check (item.requireValue "bad_ungrammatical")
  return {
    materialsId := some materialsId
    itemId
    conditionId := .filler [manipulation, ungrammatical]
    lexicon := none
    presentation :=
      { options := some (.goodBad ⟨Phrase.sentence good, Phrase.sentence bad⟩) } }

/-! ## Drawing fillers -/

/-- Draws `count` fillers; all items are drawn before any is rendered. -/
def build (kind : Fillers) (set : MaterialsSet) (count : Nat) : Drawing σ (List Trial) :=
  match kind with
  | .balanced first second format => do
    let ofFirst ← sampleRated set first (count / 2)
    let ofSecond ← sampleRated set second (count - count / 2)
    (ofFirst ++ ofSecond).mapM fun e => (buildBalanced corpus format e.1 e.2 set.name).fresh
  | .completion join => do
    let items ← sampleItems set.items count set.name
    items.mapM fun item => (buildCompletion corpus join item set.name).fresh
  | .options => do
    let items ← sampleItems set.items count set.name
    items.mapM fun item => (buildOptions corpus item set.name).fresh

end Fillers
end Alternation
