import ComposeLint.Text.Basic

/-!
Short volume mounts, `source:container[:mode]`. A drive letter with its colon belongs to the path
after it. The source is a path of the host or the name of a volume.
-/

namespace ComposeLint.Mount

/-- A letter, a colon, and a slash of either kind. -/
def startsWithDrive : Text → Bool
  | letter :: ':' :: slash :: _ => Text.isLetter letter && (slash == '/' || slash == '\\')
  | _ => false

/-- The parts between colons, a leading drive letter kept with its path. -/
def split (mount : Text) : List Text :=
  if startsWithDrive mount then
    match (mount.drop 2).splitOn ':' with
    | path :: rest => (mount.take 2 ++ path) :: rest
    | [] => []
  else mount.splitOn ':'

/-- How paths and interpolations start. -/
def pathStarts : List Text := ["./", "../", "/", "~", "$", "\\"].map String.toList

/-- Whether a source is a path of the host, or may turn out to be one. -/
def isBindSource (source : Text) : Bool :=
  source == ".".toList || source == "..".toList || pathStarts.any source.startsWith ||
    startsWithDrive source

def isVolumeName : Text → Bool
  | [] => false
  | c :: rest =>
    let isAlphanumeric := fun d => Text.isLetter d || Text.isFigure d
    isAlphanumeric c && rest.all fun d => isAlphanumeric d || "_.-".toList.contains d

/-- The volume that a source names, if it is no path. -/
def namedVolume? (source : Text) : Option Text :=
  let source := source.trim
  if !isBindSource source && isVolumeName source then some source else none

/-- The volume that a whole mount refers to. -/
def volumeOf? (mount : Text) : Option Text :=
  match split mount with
  | source :: _ :: _ => namedVolume? source
  | _ => none

end ComposeLint.Mount
