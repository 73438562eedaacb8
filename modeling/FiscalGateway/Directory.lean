import FiscalGateway.SystemError

/-!
# A directory

Reading in a directory that holds some files and no other directory. A path may go through the
directory itself and may repeat its slashes. Of what lies outside nothing can be read; the
directories that a path gets to by going up, or from the root of all, are there all the same.
-/

namespace FiscalGateway

/-- Files under their names. -/
structure Directory where
  files : List (String × Octets)
  deriving DecidableEq, Repr

namespace Directory

/-- The names on a path; the directory itself has none. -/
def names (path : String) : List String :=
  (path.splitOn "/").filter fun name => name != "" && name != "."

/-- Reads a file of the directory. Whatever follows the name of a file asks for a directory. -/
def read (d : Directory) : ReadFile := fun path =>
  if path.isEmpty then .error .notFound
  else
    match names path with
    | [] => .error .isDirectory
    | name :: rest =>
      if (name :: rest).all (· == "..") then .error .isDirectory
      else if path.startsWith "/" then .error .notFound
      else
        match d.files.lookup name with
        | some content =>
          if rest.isEmpty && (path.splitOn "/").getLast? == some name then .ok content
          else .error .notDirectory
        | none => .error .notFound

end Directory
end FiscalGateway
