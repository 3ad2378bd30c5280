import Switchboard.Http.Fault
import Switchboard.Text.Ascii
import Switchboard.Text.Blank
import Switchboard.Text.Parts

/-!
Header fields: an ordered multimap whose names are compared without regard to the case of ASCII letters.
Look-up gives the first match, insertion never replaces, and the order of the rest is always kept.
-/

namespace Switchboard.Http

/-- A header field. -/
structure Field where
  name : String
  value : String
  deriving DecidableEq, Repr

/-- The field has this name, up to the case of ASCII letters. -/
def Field.isNamed (name : String) (f : Field) : Bool := Text.sameName f.name name

/-- A list of header fields in order of arrival. -/
structure Fields where
  toList : List Field
  deriving DecidableEq, Repr

namespace Fields

/-- No field. -/
def empty : Fields := ⟨[]⟩

/-- The fields of a list of names with values. -/
def ofPairs (ps : List (String × String)) : Fields := ⟨ps.map fun p => ⟨p.1, p.2⟩⟩

/-- The names with their values, in order. -/
def toPairs (h : Fields) : List (String × String) := h.toList.map fun f => (f.name, f.value)

/-- The number of fields. -/
def size (h : Fields) : Nat := h.toList.length

/-- No field is there. -/
def isEmpty (h : Fields) : Bool := h.toList.isEmpty

/-- Adds a field at the end. -/
def insert (h : Fields) (name value : String) : Fields := ⟨h.toList ++ [⟨name, value⟩]⟩

/-- Adds fields at the end. -/
def append (h : Fields) (fs : List Field) : Fields := ⟨h.toList ++ fs⟩

/-- Replaces the value of the first field of a list with this name, or adds the field at the end. -/
def setIn (name value : String) : List Field → List Field
  | [] => [⟨name, value⟩]
  | f :: rest =>
    if f.isNamed name then { f with value } :: rest else f :: setIn name value rest

/-- Replaces the value of the first field with this name, or adds the field at the end. -/
def set (h : Fields) (name value : String) : Fields := ⟨setIn name value h.toList⟩

/-- All values under a name, in order. -/
def getAll (h : Fields) (name : String) : List String :=
  (h.toList.filter (·.isNamed name)).map (·.value)

/-- The first value under a name. -/
def get? (h : Fields) (name : String) : Option String :=
  (h.toList.find? (·.isNamed name)).map (·.value)

/-- Some field has this name. -/
def contains (h : Fields) (name : String) : Bool := h.toList.any (·.isNamed name)

/-- The fields without those of this name. -/
def remove (h : Fields) (name : String) : Fields := ⟨h.toList.filter (!·.isNamed name)⟩

/-- The number of fields with this name. -/
def count (h : Fields) (name : String) : Nat := h.toList.countP (·.isNamed name)

/-- A value holds a token if one of its parts between commas is the token, blanks at the ends and the case
of ASCII letters aside. -/
def valueHasToken (value token : String) : Bool :=
  (Text.splitAll ',' value.toList).any fun part =>
    (Text.trimList Text.isBlank part).map Char.toLower == Text.foldCase token

/-- Some value under the name holds the token. -/
def hasToken (h : Fields) (name token : String) : Bool :=
  (h.getAll name).any (valueHasToken · token)

/-- The fields one a line, for people to read. -/
def display (h : Fields) : String :=
  String.join (h.toList.map fun f => s!"{f.name}: {f.value}\n")

/-- The fields as they are sent, with the blank line after them. -/
def wire (h : Fields) : Bytes :=
  h.toList.flatMap (fun f =>
    Text.utf8 f.name ++ Text.utf8 ": " ++ Text.utf8 f.value ++ Text.crlf) ++ Text.crlf

@[simp] theorem toList_insert (h : Fields) (name value : String) :
    (h.insert name value).toList = h.toList ++ [⟨name, value⟩] := rfl

@[simp] theorem toList_append (h : Fields) (fs : List Field) :
    (h.append fs).toList = h.toList ++ fs := rfl

@[simp] theorem toList_remove (h : Fields) (name : String) :
    (h.remove name).toList = h.toList.filter (!·.isNamed name) := rfl

@[simp] theorem toList_empty : empty.toList = [] := rfl

end Fields

/-- The name and the value of a field line. The name is a token, directly followed by a colon; spaces and
tabs around the value are dropped, and it holds no control character but the tab. -/
def Field.ofLine (line : String) : Except Fault Field :=
  let cs := line.toList
  match cs with
  | ' ' :: _ | '\t' :: _ => .error (.foldedField line)
  | _ =>
    if cs.contains ':' then
      let name := String.ofList (cs.takeWhile (· != ':'))
      let value := Text.trimList Text.isSpaceTab ((cs.dropWhile (· != ':')).drop 1)
      if name.isEmpty then .error .emptyFieldName
      else if !name.toList.all Text.isTokenChar then .error (.fieldName name)
      else if value.any fun c => Text.isControl c && c != '\t' then .error (.fieldControl name)
      else .ok ⟨name, String.ofList value⟩
    else .error (.fieldWithoutColon line)

end Switchboard.Http
