import ComposeLint.Line.Comment

/-!
The shape of a mapping line, `key:` or `key: value`. A colon glued to what follows separates
nothing, so `80:80` and `http://host` are plain texts.
-/

namespace ComposeLint

/-- A key with the text after its colon. The value is absent when nothing, not even a blank,
follows the colon. -/
structure KeyValue where
  key : Text
  value? : Option Text
deriving DecidableEq, Repr

namespace KeyValue

/-- Characters of a key: letters, figures, and the signs of paths, variables and quoted names. -/
def isKeyChar (c : Char) : Bool :=
  Text.isLetter c || Text.isFigure c || "_.$/\x7b\x7d\"'-".toList.contains c

/-- The key, blanks of any kind, a colon, and then nothing or a blank-separated value. The key is
the whole run of key characters, since what may follow it is none. -/
def read? (t : Text) : Option KeyValue :=
  let key := t.takeWhile isKeyChar
  if key.isEmpty then none
  else
    match Text.trimStart (t.dropWhile isKeyChar) with
    | ':' :: tail =>
      if tail.head?.any Text.isSpaceOrTab then
        (Text.singleLine? (tail.dropWhile Text.isSpaceOrTab)).map fun value => ⟨key, some value⟩
      else if tail.isEmpty || tail == ['\n'] then some ⟨key, none⟩
      else none
    | _ => none

/-- The value as given, the empty text when there is none. -/
def value (entry : KeyValue) : Text := entry.value?.getD []

end KeyValue

/-- Whether a list entry holds a mapping (`target: 80`) and not a short form (`80:80`). -/
def Text.isMappingEntry (t : Text) : Bool := (KeyValue.read? t).any (·.value?.isSome)

end ComposeLint
