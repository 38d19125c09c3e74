/-
# Rendering texts

`SPEC_FULL` §4.2 (`resolve`, `reset`) and §4.3, Field Processor: `substitute`,
`process`, `process_optional`.

Two monads, both of which keep their state when they fail:

* `Drawing σ` draws from a random source of type `σ` and may fail.
* `Rendering σ` renders one trial: besides drawing, it binds persons.

`Rendering.fresh` renders with nothing bound and forgets the bindings.
-/

import Alternation.Render.Error
import Alternation.Render.Placeholder

namespace Alternation

/-- Computations that draw at random and may fail. -/
abbrev Drawing (σ : Type) := ExceptT RenderError (StateM σ)

/-- The bindings of a trial and the random source. -/
structure Scene (σ : Type) where
  bindings : Bindings
  source : σ

/-- Computations that render texts of one trial. -/
abbrev Rendering (σ : Type) := ExceptT RenderError (StateM (Scene σ))

/-- Renders a trial, with nothing bound at first. -/
def Rendering.fresh {σ α : Type} (rendering : Rendering σ α) : Drawing σ α :=
  ExceptT.mk fun source =>
    let (result, scene) := rendering.run ⟨.empty, source⟩
    (result, scene.source)

namespace Rendering

/-- Fails as a check did, or goes on with its result. -/
def check {σ α : Type} (result : Except RenderError α) : Rendering σ α := ExceptT.mk (pure result)

variable {σ : Type} [RandomSource σ] (corpus : NameCorpus)

/-- The text bound to a placeholder of a person that is bound. -/
def boundText (bindings : Bindings) (id : String) (subtype : Option String) :
    Except RenderError String :=
  match bindings.get? id subtype with
  | some text => .ok text
  | none => .error (.unknownSubtype id (subtype.getD ""))

/-- The text of a placeholder, its person bound to an unused name first if it is
not bound yet. -/
def resolve (id : String) (subtype : Option String) : Rendering σ String :=
  ExceptT.mk fun scene =>
    if scene.bindings.texts.contains (Bindings.key id none) then
      (boundText scene.bindings id subtype, scene)
    else
      match (Bindings.drawUnused corpus scene.bindings.names Bindings.maxDraws).run
          scene.source with
      | (some (name, gender), source) =>
        let bindings := scene.bindings.bind id name gender
        (boundText bindings id subtype, ⟨bindings, source⟩)
      | (none, source) =>
        (.error (.namesExhausted Bindings.maxDraws), ⟨scene.bindings, source⟩)

/-- The text of a segment. -/
def segment : Segment → Rendering σ String
  | .literal text => pure text
  | .person p => resolve corpus p.id p.subtype

/-- The text of segments, one after the other. -/
def segments : List Segment → Rendering σ String
  | [] => pure ""
  | s :: rest => do
    let first ← segment corpus s
    let others ← segments rest
    return first ++ others

/-- Forgets every binding; nothing is drawn. -/
def reset {σ : Type} : Rendering σ Unit :=
  ExceptT.mk fun scene => (.ok (), { scene with bindings := .empty })

/-- The text with every placeholder replaced. -/
def substitute (text : String) : Rendering σ String := segments corpus (Segment.parse text)

/-- The text of a field that must be there, with every placeholder replaced. -/
def process (item : Item) (field : String) : Rendering σ String := do
  substitute corpus (← check (item.requireText field))

/-- The text of a field with every placeholder replaced, if there is any text. -/
def processOptional (item : Item) (field : String) : Rendering σ (Option String) :=
  match item.text? field with
  | some text => if text = "" then pure none else some <$> substitute corpus text
  | none => pure none

end Rendering
end Alternation
