/-
# Placeholders

`SPEC_FULL` §4.3, Field Processor: `Segment`, `parse_placeholders`, `match_placeholder`.

Materials texts name persons by placeholders: `%PERSON1%` is the first name of
person 1, and `%PERSON1_POSS%` something that goes with it. `Segment.parse`
splits a text into literal runs and placeholders, from left to right; a `%` that
starts no placeholder is literal. `Segment.source` writes a segment back.
-/

namespace Alternation

/-- A mention of a person. -/
structure Placeholder where
  id : String
  subtype : Option String
deriving DecidableEq, Repr

namespace Placeholder

/-- The start of every placeholder. -/
def opening : List Char := ['%', 'P', 'E', 'R', 'S', 'O', 'N']

/-- What remains of a text after its start. -/
def after? : List Char → List Char → Option (List Char)
  | [], cs => some cs
  | _ :: _, [] => none
  | p :: ps, c :: cs => if p = c then after? ps cs else none

/-- What stands after a start, with the start in front, is the text. -/
theorem eq_append_of_after? {ps cs rest : List Char} (h : after? ps cs = some rest) :
    cs = ps ++ rest := by
  fun_induction after? ps cs with
  | case1 => simp_all
  | case2 => simp at h
  | case3 p ps cs ih => rw [ih h, List.cons_append]
  | case4 => simp at h

/-- The text of a placeholder. -/
def source (p : Placeholder) : List Char :=
  opening ++ p.id.toList ++ (p.subtype.elim [] fun s => '_' :: s.toList) ++ ['%']

/-- Reads a subtype and the percent sign that closes it. -/
def readSubtype (id cs : List Char) : Option (Placeholder × List Char) :=
  match cs.dropWhile (· != '%') with
  | [] => none
  | _ :: rest =>
    if cs.takeWhile (· != '%') = [] then none
    else some (⟨String.ofList id, some (String.ofList (cs.takeWhile (· != '%')))⟩, rest)

/-- Reads what follows the digits: a percent sign, or an underscore and a subtype. -/
def readEnd (id : List Char) : List Char → Option (Placeholder × List Char)
  | [] => none
  | c :: rest =>
    if c = '%' then some (⟨String.ofList id, none⟩, rest)
    else if c = '_' then readSubtype id rest
    else none

/-- Reads the placeholder at the start of a text: digits after the opening, then
possibly an underscore and a subtype, then a percent sign. -/
def read? (cs : List Char) : Option (Placeholder × List Char) :=
  match after? opening cs with
  | none => none
  | some rest =>
    if rest.takeWhile Char.isDigit = [] then none
    else readEnd (rest.takeWhile Char.isDigit) (rest.dropWhile Char.isDigit)

/-- Reading a subtype and the final percent sign takes just the source of the placeholder
away. -/
theorem eq_append_of_readSubtype {id cs rest : List Char} {p : Placeholder}
    (h : readSubtype id cs = some (p, rest)) : opening ++ id ++ '_' :: cs = p.source ++ rest := by
  unfold readSubtype at h
  have hsplit := List.takeWhile_append_dropWhile (p := (· != '%')) (l := cs)
  cases hd : cs.dropWhile (· != '%') with
  | nil => simp [hd] at h
  | cons d tail =>
    have hd' : d = '%' := by
      have := List.head_dropWhile_not (· != '%') (l := cs) (by simp [hd])
      simpa [hd] using this
    simp only [hd] at h
    split at h
    · simp at h
    · obtain ⟨rfl, rfl⟩ := Prod.mk.inj (Option.some.inj h)
      rw [hd, hd'] at hsplit
      simp [source, hsplit]

/-- Reading the end of a placeholder takes just the source of the placeholder away. -/
theorem eq_append_of_readEnd {id cs rest : List Char} {p : Placeholder}
    (h : readEnd id cs = some (p, rest)) : opening ++ id ++ cs = p.source ++ rest := by
  cases cs with
  | nil => simp [readEnd] at h
  | cons c tail =>
    simp only [readEnd] at h
    split at h
    · obtain ⟨rfl, rfl⟩ := Prod.mk.inj (Option.some.inj h)
      simp [source, *]
    · split at h
      · rename_i hc
        rw [hc]
        exact eq_append_of_readSubtype h
      · simp at h

/-- **A placeholder is read as it is written:** its text and the rest make up the
whole. -/
theorem eq_append_of_read? {cs rest : List Char} {p : Placeholder}
    (h : read? cs = some (p, rest)) : cs = p.source ++ rest := by
  unfold read? at h
  split at h
  · simp at h
  · rename_i tail htail
    split at h
    · simp at h
    · rw [eq_append_of_after? htail, ← eq_append_of_readEnd h, List.append_assoc,
        List.takeWhile_append_dropWhile]

/-- Behind a placeholder the text is shorter, so parsing ends. -/
theorem length_of_read? {cs rest : List Char} {p : Placeholder}
    (h : read? cs = some (p, rest)) : rest.length < cs.length := by
  rw [eq_append_of_read? h]
  simp only [source, opening, List.length_append, List.length_cons, List.length_nil]
  omega

end Placeholder

/-- A piece of a text. -/
inductive Segment where
  | literal (text : String)
  | person (placeholder : Placeholder)
deriving DecidableEq, Repr

namespace Segment

/-- The text of a segment. -/
def source : Segment → List Char
  | literal text => text.toList
  | person p => p.source

/-- A literal run collected in reverse, unless it is empty. -/
def flush (run : List Char) : List Segment :=
  if run = [] then [] else [.literal (String.ofList run.reverse)]

/-- The segments of a text after a literal run collected in reverse. -/
def parseFrom (run : List Char) : List Char → List Segment
  | [] => flush run
  | c :: cs =>
    match _h : Placeholder.read? (c :: cs) with
    | some (p, rest) => flush run ++ .person p :: parseFrom [] rest
    | none => parseFrom (c :: run) cs
termination_by cs => cs.length
decreasing_by
  · exact Placeholder.length_of_read? ‹_›
  · simp

/-- The segments of a text. -/
def parse (text : String) : List Segment := parseFrom [] text.toList

end Segment
end Alternation
