/-
# The spray-load alternation

`SPEC_FULL` §4.6, spray-load family: `SprayLoadBuilder` (`lexicon`, `present`,
`build_trial`), `all_sentences`, `lookup`, `slider_labels`.

"Mary sprayed paint on the wall" alternates with "Mary sprayed the wall with
paint". Slot 0 of a condition tells whether the theme is the object, slot 1
whether the location phrase is heavy, and slot 2 whether the theme phrase is.

`allSentences` renders all eight combinations; a trial shows one of them, or
offers the two that differ in the object.
-/

import Alternation.Render.Rendering
import Alternation.Text.Phrase
import Alternation.Trial.Basic

namespace Alternation
namespace SprayLoad

/-- What a participant sees and does. -/
inductive Task where
  /-- Rate how full or covered the location is; with `images`, an item that has
  pictures asks for the choice of one of them. -/
  | constructionMeaning (images : Bool)
  /-- Choose between the two objects at the given weights. -/
  | weight
deriving DecidableEq, Repr

/-- The fields that must be filled. -/
def requiredFields : List String :=
  ["S", "T", "T heavy", "V", "V pres", "V past simp", "L", "L heavy", "P", "scale type"]

/-- The fields that must be there. -/
def flagFields : List String := ["T plural?", "L plural?"]

/-! ## Lexical slots -/

/-- The path of a picture, if the item has it. -/
def imageOf? (item : Item) (kind : ImageKind) : Option (ImageKind × String) :=
  match item.text? kind.field with
  | some path => if path = "" then none else some (kind, path)
  | none => none

/-- The pictures of an item. -/
def imagesOf (item : Item) : List (ImageKind × String) := ImageKind.all.filterMap (imageOf? item)

section

variable {σ : Type} [RandomSource σ] (corpus : NameCorpus) (item : Item)

/-- Renders both forms of a phrase. -/
def readPhrase (lightField heavyField flagField : String) : Rendering σ WeightedPhrase := do
  let light ← Rendering.process corpus item lightField
  let heavy ← Rendering.process corpus item heavyField
  let isPlural ← Rendering.check (item.requireFlag flagField)
  return { light, heavy, isPlural }

/-- Renders the forms of the verb. -/
def readVerb : Rendering σ VerbForms := do
  let base ← Rendering.process corpus item "V"
  let present ← Rendering.process corpus item "V pres"
  let pastSimple ← Rendering.process corpus item "V past simp"
  return { base, present, pastSimple }

/-- Renders the lexical slots of a trial. -/
def readLexicon : Rendering σ SprayLoadLexicon := do
  let subject ← Rendering.process corpus item "S"
  let theme ← readPhrase corpus item "T" "T heavy" "T plural?"
  let location ← readPhrase corpus item "L" "L heavy" "L plural?"
  let verb ← readVerb corpus item
  let scaleType ← Rendering.check (item.requireText "scale type")
  let preposition ← Rendering.process corpus item "P"
  let promptPreposition ← Rendering.processOptional corpus item "Prompt P"
  return {
    images := imagesOf item
    subject, theme, location, verb, scaleType, preposition
    promptPreposition := promptPreposition.getD "" }

end

/-! ## The eight sentences -/

/-- A choice of the object and of the weights. -/
structure Choice where
  themeObject : Bool
  locationHeavy : Bool
  themeHeavy : Bool
deriving DecidableEq, Repr

namespace Choice

/-- A flag in a key. -/
def digit (flag : Bool) : String := if flag then "1" else "0"

/-- The key of a choice. -/
def key (c : Choice) : String := digit c.themeObject ++ digit c.locationHeavy ++ digit c.themeHeavy

/-- All choices, in ascending order of their keys. -/
def all : List Choice :=
  [false, true].flatMap fun themeObject =>
    [false, true].flatMap fun locationHeavy =>
      [false, true].map fun themeHeavy => ⟨themeObject, locationHeavy, themeHeavy⟩

/-- The choice that the three slots of a condition name. -/
def ofCondition (condition : Condition) : Except RenderError Choice := do
  let themeObject ← condition.requireFlag 0
  let locationHeavy ← condition.requireFlag 1
  let themeHeavy ← condition.requireFlag 2
  return { themeObject, locationHeavy, themeHeavy }

end Choice

/-- A phrase without the commas at its ends. -/
def withoutCommas (phrase : String) : String :=
  String.ofList (Text.strip (· == ',') phrase.toList)

/-- The words after the verb; the phrase that ends the sentence loses its commas. -/
def complement (lexicon : SprayLoadLexicon) (choice : Choice) : String :=
  let location := lexicon.location.pick choice.locationHeavy
  let theme := lexicon.theme.pick choice.themeHeavy
  if choice.themeObject then
    Phrase.joinWords [theme, lexicon.preposition, withoutCommas location]
  else
    Phrase.joinWords [location, "with", withoutCommas theme]

/-- The sentence of a choice. -/
def sentenceOf (lexicon : SprayLoadLexicon) (choice : Choice) : String :=
  Phrase.sentence
    (Phrase.joinWords [lexicon.subject, lexicon.verb.pastSimple, complement lexicon choice])

/-- The sentences of all choices, by key. -/
def allSentences (lexicon : SprayLoadLexicon) : List (String × String) :=
  Choice.all.map fun choice => (choice.key, sentenceOf lexicon choice)

/-- The sentence under the key of a choice; a key without one is a fault of the
slot that chooses the object. -/
def lookup (sentences : List (String × String)) (choice : Choice) (condition : Condition) :
    Except RenderError String :=
  match sentences.lookup choice.key with
  | some sentence => .ok sentence
  | none => .error (.conditionSlot condition 0)

/-! ## Presentation -/

/-- The ends of the slider: the text for none, and the words for all. -/
def scaleOf? (scaleType : String) : Option (String × String) :=
  match scaleType with
  | "cover" => some ("0% / none", "completely covered")
  | "fill" => some ("0% / empty", "completely full")
  | _ => none

/-- The labels at the two ends of the slider. -/
def sliderLabels (item : Item) (lexicon : SprayLoadLexicon) :
    Except RenderError (String × String) :=
  match scaleOf? lexicon.scaleType with
  | some (least, state) =>
    .ok (least, "100% / " ++ Phrase.joinWords
      [lexicon.location.light, Phrase.copula lexicon.location.isPlural, state])
  | none => .error (item.fault "scale type" (.unknown lexicon.scaleType))

/-- What the prompt adds where a picture is to be chosen. -/
def imagePrompt : String := "<br/>Pick the image which is best described by the sentence."

/-- The question after the quantity. -/
def quantityPrompt (lexicon : SprayLoadLexicon) : String :=
  Phrase.howMuchQuestion lexicon.theme.light lexicon.theme.isPlural lexicon.promptPreposition
    lexicon.location.light

/-- What a participant sees. -/
def present (task : Task) (item : Item) (lexicon : SprayLoadLexicon) (condition : Condition) :
    Except RenderError Presentation := do
  let sentences := allSentences lexicon
  match task with
  | .constructionMeaning images =>
    let choice ← Choice.ofCondition condition
    let chosen ← lookup sentences choice condition
    let byImage := images && !lexicon.images.isEmpty
    let labels ← sliderLabels item lexicon
    return {
      sentence := some chosen
      sentences := some (.byCondition sentences)
      prompt := some (quantityPrompt lexicon ++ if byImage then imagePrompt else "")
      sliderLabels := some labels
      measure := some (if byImage then .forcedChoiceImages else .slider) }
  | .weight =>
    let locationHeavy ← condition.requireFlag 1
    let themeHeavy ← condition.requireFlag 2
    let locationObject ← lookup sentences ⟨false, locationHeavy, themeHeavy⟩ condition
    let themeObject ← lookup sentences ⟨true, locationHeavy, themeHeavy⟩ condition
    return {
      sentences := some (.byCondition sentences)
      options := some (.byConstruction locationObject themeObject) }

/-- Renders a trial. -/
def build {σ : Type} [RandomSource σ] (corpus : NameCorpus) (task : Task) (item : Item)
    (condition : Condition) (materialsId : String) : Rendering σ Trial := do
  let lexicon ← readLexicon corpus item
  let presentation ← Rendering.check (present task item lexicon condition)
  let itemId ← Rendering.check item.requireId
  return {
    materialsId := some materialsId
    itemId
    conditionId := .experimental condition
    lexicon := some (.sprayLoad lexicon)
    presentation }

end SprayLoad
end Alternation
