namespace StaticInjection

/-! What is asked of a file system, and how it may refuse. -/

inductive FileFault where
  | notFound
  | alreadyThere
  | notDirectory
  | isDirectory
  | nameTooLong
  /-- The character with code zero ends a name for the system. -/
  | zeroInName
  /-- The bytes of the file are not those of a text. -/
  | notText
  | other (reason : String)
deriving DecidableEq, Repr

def FileFault.message : FileFault → String
  | notFound => "No such file or directory (os error 2)"
  | alreadyThere => "File exists (os error 17)"
  | notDirectory => "Not a directory (os error 20)"
  | isDirectory => "Is a directory (os error 21)"
  | nameTooLong => "File name too long (os error 36)"
  | zeroInName => "file name contained an unexpected NUL byte"
  | notText => "stream did not contain valid UTF-8"
  | other reason => reason

/-- The operations of a file system on paths. -/
structure FileAccess (m : Type → Type) where
  /-- Make a directory, and those around it that are missing. -/
  createDirectories : String → m (Except FileFault Unit)
  /-- Set the content of a file, which is made when it is missing. -/
  write : (path content : String) → m (Except FileFault Unit)
  /-- Move a file. One that has the new name already is replaced. -/
  rename : (source target : String) → m (Except FileFault Unit)
  /-- Remove a file. -/
  remove : String → m (Except FileFault Unit)

/-- The path of a file in a directory. A name that begins with a slash is a path of its own. -/
def joinPath (directory name : String) : String :=
  if directory = "" || name.toList.head? = some '/' then name
  else if directory.toList.getLast? = some '/' then directory ++ name
  else directory ++ "/" ++ name

end StaticInjection
