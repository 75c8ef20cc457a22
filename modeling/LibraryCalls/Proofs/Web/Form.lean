import LibraryCalls.Proofs.Web.Decoding
import LibraryCalls.Proofs.Web.Request

/-!
# Parameters read back

A server reads a query as the form of a page: it splits it into parameters, splits these into names
and values, takes plus signs for spaces and undoes the escapes.

The reader of forms is written down here, because no part of the program needs it: it is the
specification that requests are measured by.  It is more liberal than what it is applied to, since a
name or value that was encoded holds neither an ampersand nor an equals sign nor a plus sign of its
own.

Parameters are read back in their order, repeated and empty ones included, each with its name and
its value.

* `Percent.decodeForm`, `decodeForm_encodeForm`: the text behind a name or a value;
* `Url.fields`, `Url.fields_queryOf`: the parameters in a query, which are those it was made of.
-/

namespace LibraryCalls.Web

open Text Url

/-! ### Names and values -/

namespace Percent

def ofPlus (c : Char) : Char :=
  if c = '+' then ' ' else c

def decodeForm (cs : List Char) : List Char :=
  decode (cs.map ofPlus)

/-- The characters that stand for themselves once plus signs are spaces again. -/
def isFormSafe (c : Char) : Bool :=
  c = ' ' || isUnreserved c

theorem ofPlus_of_mem_escape {b : UInt8} {d : Char} (h : d ∈ escape b) : ofPlus d = d := by
  apply if_neg
  rintro rfl
  rcases of_mem_escape h with h | h
  · exact absurd h (by decide)
  · exact absurd h (by decide)

/-- Without plus signs for spaces, a character is encoded as in any other text. -/
theorem map_ofPlus_encodeFormChar (c : Char) :
    (if c = ' ' then ['+'] else encodeChar isUnreserved c).map ofPlus
      = encodeChar isFormSafe c := by
  by_cases hspace : c = ' '
  · subst hspace
    rfl
  · rw [if_neg hspace]
    by_cases hsafe : isUnreserved c = true
    · have hplus : ofPlus c = c := by
        apply if_neg
        rintro rfl
        exact absurd hsafe (by decide)
      have hform : isFormSafe c = true := by rw [isFormSafe, hsafe, Bool.or_true]
      rw [encodeChar_of_safe hsafe, encodeChar_of_safe hform, List.map_singleton, hplus]
    · have hform : ¬ isFormSafe c = true := by simp [isFormSafe, hsafe, hspace]
      rw [encodeChar, encodeChar, if_neg hsafe, if_neg hform]
      have hkept : ∀ d ∈ (String.utf8EncodeChar c).flatMap escape, ofPlus d = id d := by
        intro d hd
        obtain ⟨b, -, hb⟩ := List.mem_flatMap.1 hd
        exact ofPlus_of_mem_escape hb
      rw [List.map_congr_left hkept, List.map_id]

theorem map_ofPlus_encodeForm (cs : List Char) :
    (encodeForm cs).map ofPlus = encode isFormSafe cs := by
  induction cs with
  | nil => rfl
  | cons c cs ih =>
    rw [encode_cons, ← ih, ← map_ofPlus_encodeFormChar, ← List.map_append]
    rfl

/-- **The text behind a name or a value** is the text that was encoded, whatever characters it is
made of. -/
theorem decodeForm_encodeForm (cs : List Char) : decodeForm (encodeForm cs) = cs := by
  rw [decodeForm, map_ofPlus_encodeForm]
  exact decode_encode (by decide) cs

end Percent

/-! ### Queries -/

namespace Url

variable {params : List (String × String)}

/-- The parameters in a query, each with the texts between its equals signs. -/
def fields (query : List Char) : List (List String) :=
  (splitOn '&' query).map fun part =>
    (splitOn '=' part).map fun cs => String.ofList (Percent.decodeForm cs)

/-- A parameter falls into its name and its value. -/
theorem splitOn_parameterText (p : String × String) :
    splitOn '=' (parameterText p) =
      [Percent.encodeForm p.1.toList, Percent.encodeForm p.2.toList] := by
  rw [parameterText, splitOn_append (Percent.not_mem_encodeForm _).2,
    splitOn_of_not_mem (Percent.not_mem_encodeForm _).2]

/-- **The parameters in a query** are those that it was made of. -/
theorem fields_queryOf (hne : params ≠ []) :
    fields (queryOf params) = params.map fun p => [p.1, p.2] := by
  rw [fields, splitOn_queryOf hne, List.map_map]
  refine List.map_congr_left fun p _ => ?_
  simp only [Function.comp_apply, splitOn_parameterText, List.map_cons, List.map_nil,
    Percent.decodeForm_encodeForm, String.ofList_toList]

end Url

end LibraryCalls.Web
