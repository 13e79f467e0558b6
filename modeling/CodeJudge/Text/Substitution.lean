/-!
# Substitution in text

Replacing every occurrence of a key by a value. Occurrences are found from the left and do not
overlap. The empty key occurs before every character and at the end.
-/

namespace CodeJudge.Substitution

/-- Replaces the occurrences of a non-empty key. `skip` counts the characters of the occurrence at
hand that are still to be passed over. -/
def replaceFrom (key value : List Char) : Nat → List Char → List Char
  | _, [] => []
  | skip + 1, _ :: rest => replaceFrom key value skip rest
  | 0, c :: rest =>
    if key.isPrefixOf (c :: rest) then value ++ replaceFrom key value (key.length - 1) rest
    else c :: replaceFrom key value 0 rest

/-- Replaces every occurrence of `key` in a text by `value`. -/
def replaceAll (key value : List Char) (text : List Char) : List Char :=
  if key.isEmpty then value ++ text.flatMap (fun c => c :: value)
  else replaceFrom key value 0 text

/-- Substitutions, each a key and the text that replaces it. -/
abbrev Mapping := List (String × String)

/-- Applies the substitutions one after another, each to the text that the ones before it left. -/
def Mapping.apply (mapping : Mapping) (text : String) : String :=
  String.ofList <| mapping.foldl
    (fun done entry => replaceAll entry.1.toList entry.2.toList done) text.toList

/-- Applies the substitutions to every argument of a command. -/
def Mapping.command (mapping : Mapping) (template : List String) : List String :=
  template.map mapping.apply

end CodeJudge.Substitution
