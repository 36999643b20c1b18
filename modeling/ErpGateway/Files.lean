import ErpGateway.Keyed
import ErpGateway.Text.Search
import ErpGateway.Text.Utf8

/-!
Files by the places where they are, seen from a directory or from the root. Directories are those that
the places of files name.
-/
namespace ErpGateway

abbrev Place := List String

abbrev Files := Keyed Place Text.Octets

namespace Files

def partsOf (path : String) : List String :=
  (Text.splitAround ['/'] path.toList).map String.ofList

def root : Place := ["/"]

def read? (files : Files) (place : Place) : Option Text.Octets :=
  files.get? place

def isFile (files : Files) (place : Place) : Bool :=
  (files.read? place).isSome

def isUp (part : String) : Bool :=
  part == ".."

def isDirectory (files : Files) (place : Place) : Bool :=
  place.all isUp || place = root || files.any fun e => place.isPrefixOf e.1 && place.length < e.1.length

def isThere (files : Files) (place : Place) : Bool :=
  files.isFile place || files.isDirectory place

def follow? (files : Files) : Place → List String → Option Place
  | place, [] => some place
  | place, part :: rest =>
    if part = "" || part = "." then
      if files.isFile place then none else files.follow? place rest
    else if part = ".." then
      if place = root then files.follow? root rest
      else if place.all isUp then files.follow? (place ++ [part]) rest
      else if !files.isDirectory place then none else files.follow? place.dropLast rest
    else files.follow? (place ++ [part]) rest

def way (path : String) : List String :=
  (partsOf path).filter fun part => part != "" && part != "."

def place? (files : Files) (path : String) : Option Place :=
  if path.isEmpty then none
  else files.follow? (if path.toList.head? = some '/' then root else []) (partsOf path)

def isBlocked (files : Files) (place : Place) : Bool :=
  files.any fun e => e.1.isPrefixOf place && e.1.length < place.length

def write (files : Files) (place : Place) (content : Text.Octets) : Files :=
  files.put place content

/-- Makes a directory; an entry without a name tells that it is there. -/
def makeDirectory (files : Files) (place : Place) : Files :=
  if files.isDirectory place then files else files.put (place ++ [""]) []

def entries (files : Files) (directory : Place) : Keyed String (Option Text.Octets) :=
  Keyed.ofList <| files.filterMap fun e =>
    if directory.isPrefixOf e.1 then
      match e.1.drop directory.length with
      | [] | [""] => none
      | [name] => some (name, some e.2)
      | name :: _ => some (name, none)
    else none

end Files

end ErpGateway
