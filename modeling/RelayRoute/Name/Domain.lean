import RelayRoute.Name.Label
import RelayRoute.Text.Split

/-!
# Domain names

`Domain.ofText?` brings a host name as people write it to the ASCII form that is looked up and sent
to proxies: the characters are mapped, the text is normalized and split at dots, each label is
checked and written in ASCII, and the result has to fit the limits of the domain name system.  One
dot at the end is kept.

* `map?` — the mapped and normalized text of a name;
* `isWellFormed` — what the labels of a name have to be like, one by one and together;
* `fits` — the limits for the length of labels and names;
* `ofText?` — the ASCII form.
-/

namespace RelayRoute.Name.Domain

/-- The mapped and normalized text of a name, or nothing when a character is refused.  Each
character is mapped by itself, and the text is normalized as a whole. -/
def map? (text : List Char) : Option (List Char) :=
  (text.mapM mapChar?).map fun parts => Unicode.normalize parts.flatten

/-- Whether the labels may stand together in a name.  The rule for directions is for all of them if
it is for one. -/
def isWellFormed (labels : List (List Char)) : Bool :=
  labels.all Label.isWellFormed &&
    (!labels.any Label.isBidirectional || labels.all Label.keepsDirection)

/-- A name without the dot at its end, if it has one. -/
def dropRoot (name : List Char) : List Char :=
  if name.getLast? = some '.' then name.dropLast else name

/-- Whether an ASCII name has labels of one to sixty-three characters and at most two hundred and
fifty-three characters in all, one dot at the end apart. -/
def fits (name : List Char) : Bool :=
  (dropRoot name).length ≤ 253 &&
    (Text.split '.' (dropRoot name)).all fun label => 1 ≤ label.length && label.length ≤ 63

/-- The ASCII form of a name, or nothing when it is no host name.  What is read from Punycode is
checked like what is written out, and is written in Punycode again. -/
def ofText? (text : List Char) : Option (List Char) := do
  let mapped ← map? text
  let labels ← (Text.split '.' mapped).mapM Label.read?
  guard (isWellFormed labels)
  let name := Text.join '.' (labels.map Label.write)
  guard (fits name)
  return name

end RelayRoute.Name.Domain
