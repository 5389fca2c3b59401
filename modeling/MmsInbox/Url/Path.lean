import MmsInbox.Url.Basic

namespace MmsInbox.Url

/-!
# Paths

A path of names is read from left to right: a single dot stays where it is, two dots go back, and a dot
may be written in percent encoding. The first name of a file's path may be a drive, which is never gone
back over.
-/

/-- The name stays where it is. -/
def isSingleDot (name : List Char) : Bool :=
  let plain := String.ofList (name.map Char.toLower)
  plain == "." || plain == "%2e"

/-- The name goes back. -/
def isDoubleDot (name : List Char) : Bool :=
  let plain := String.ofList (name.map Char.toLower)
  [".", "%2e"].any fun first => [".", "%2e"].any fun second => plain == first ++ second

/-- The name is a drive: a letter and a colon or a bar. -/
def isDrive (name : List Char) : Bool :=
  match name with
  | [letter, mark] => letter.isAlpha && (mark == ':' || mark == '|')
  | _ => false

/-- The name is a drive as it is written. -/
def isWrittenDrive (name : List Char) : Bool :=
  isDrive name && name.getLast? == some ':'

/-- Go back over the last name, unless it is the drive of a file. -/
def goBack (isFile : Bool) (names : List (List Char)) : List (List Char) :=
  match names with
  | [only] => if isFile && isWrittenDrive only then names else []
  | _ => names.dropLast

/-- Follow a name. The last name of a path leaves an empty one behind it if it is a dot or two. -/
def follow
    (isFile : Bool)
    (names : List (List Char))
    (name : List Char)
    (isLast : Bool) :
    List (List Char) :=
  let stop := if isLast then [[]] else []
  if isDoubleDot name then goBack isFile names ++ stop
  else if isSingleDot name then names ++ stop
  else if isFile && names.isEmpty && isDrive name then names ++ [name.take 1 ++ [':']]
  else names ++ [name]

/-- Follow names one after another. -/
def followAll (isFile : Bool) : (names rest : List (List Char)) → List (List Char)
  | names, [] => names
  | names, [last] => follow isFile names last true
  | names, name :: later => followAll isFile (follow isFile names name false) later

/-- The names of a path between slashes, and in special schemes also between backslashes. -/
def splitNames (isSpecial : Bool) (text : List Char) : List (List Char) :=
  (if isSpecial then text.map fun c => if c = '\\' then '/' else c else text).splitOn '/'

/-- The names of a file's path. What follows a drive without a slash counts as the next name, and empty
names in front are left out. -/
def fileNames (names : List (List Char)) : List (List Char) :=
  let names := match names with
    | (letter :: ':' :: c :: more) :: later =>
        if letter.isAlpha then [letter, ':'] :: (c :: more) :: later else names
    | _ => names
  match (followAll true [] names).dropWhile List.isEmpty with
  | [] => [[]]
  | rest => rest

/-- The names that the text behind the first slash of a path stands for. -/
def pathNames
    (scheme : String)
    (text : List Char) :
    List String :=
  let encoded := percentEncode inPath text
  let names := splitNames (isSpecialScheme scheme) encoded
  (if scheme = fileScheme then fileNames names else followAll false [] names).map String.ofList

end MmsInbox.Url
