import RackElevation.Text.Cut
import RackElevation.Uri.Percent

/-
  Forms

  A form is a list of named texts, written `name=text` with ampersands between.
  In a name or a text a plus sign stands for a space and any other character may
  be percent-encoded; escapes that encode no character are left as they are.
-/

namespace RackElevation.Form

open Text

/-- A name or a text as it was meant. -/
def decodeText (s : List Char) : List Char :=
  let bytes := Utf8.encode (s.map fun c => if c = '+' then ' ' else c)
  Utf8.decodeWith (fun run => run.flatMap Percent.encodeByte) (Percent.decode bytes)

/-- The fields of a form, in order. -/
def decode (s : List Char) : List (List Char × List Char) :=
  ((fields '&' s).filter fun f => !f.isEmpty).map fun f =>
    let (name, text) := cut '=' f
    (decodeText name, decodeText (text.getD []))

/-- The text of the first field with a name. -/
def field? (name : String) (form : List (List Char × List Char)) : Option (List Char) :=
  form.lookup name.toList

end RackElevation.Form
