/-!
# Directories

A directory holds files and folders under names.  Whatever is not asked of a folder
is left out of it: it only takes up its name.  Every operation either succeeds as a
whole or fails and changes nothing.
-/

namespace StreamCatalog

/-- What stands under a name. -/
inductive Node (α : Type) where
  | file (content : α)
  | folder
  deriving DecidableEq, Repr

/-- A directory of files with contents of one type. -/
structure Directory (α : Type) where
  entries : List (String × Node α) := []
  deriving DecidableEq, Repr

namespace Directory

/-- Why the file system refuses. -/
inductive Fault where
  | taken
  | missing
  | isFolder
  /-- What should be a folder is something else. -/
  | noFolder
  | nameTooLong
  /-- A name cannot hold the character that ends it. -/
  | nulInName
  /-- Whatever else can go wrong, in the words of the file system. -/
  | other (reason : String)
  deriving DecidableEq, Repr

/-- The text of a fault. -/
def Fault.text : Fault → String
  | .taken => "File exists (os error 17)"
  | .missing => "No such file or directory (os error 2)"
  | .isFolder => "Is a directory (os error 21)"
  | .noFolder => "Not a directory (os error 20)"
  | .nameTooLong => "File name too long (os error 36)"
  | .nulInName => "file name contained an unexpected NUL byte"
  | .other reason => reason

variable {α : Type}

/-- What stands under a name. -/
def find? (d : Directory α) (name : String) : Option (Node α) := d.entries.lookup name

@[simp] theorem find?_empty (name : String) : ({} : Directory α).find? name = none := rfl

/-- Is the name taken? -/
def contains (d : Directory α) (name : String) : Bool := (d.find? name).isSome

/-- Put something under a name, in place of what was there. -/
def put (d : Directory α) (name : String) (n : Node α) : Directory α :=
  ⟨(name, n) :: d.entries.filter fun e => e.1 ≠ name⟩

/-- Take away what is under a name. -/
def erase (d : Directory α) (name : String) : Directory α :=
  ⟨d.entries.filter fun e => e.1 ≠ name⟩

theorem lookup_filter_ne (entries : List (String × Node α)) (name other : String) :
    (entries.filter fun e => e.1 ≠ name).lookup other =
      if other = name then none else entries.lookup other := by
  induction entries with
  | nil => simp
  | cons e entries ih =>
    obtain ⟨key, n⟩ := e
    by_cases gone : key = name
    · rw [List.filter_cons_of_neg (by simpa using gone), ih]
      by_cases same : other = name
      · rw [if_pos same, if_pos same]
      · rw [if_neg same, if_neg same, List.lookup_cons, gone, beq_false_of_ne same]
    · rw [List.filter_cons_of_pos (by simpa using gone), List.lookup_cons, List.lookup_cons, ih]
      by_cases here : other = key
      · simp [here, gone]
      · rw [beq_false_of_ne here]

/-- What is taken away is gone, and all else stays. -/
@[simp] theorem find?_erase (d : Directory α) (name other : String) :
    (d.erase name).find? other = if other = name then none else d.find? other :=
  lookup_filter_ne d.entries name other

/-- What is put somewhere is found there, and all else stays. -/
@[simp] theorem find?_put (d : Directory α) (name other : String) (n : Node α) :
    (d.put name n).find? other = if other = name then some n else d.find? other := by
  show List.lookup other ((name, n) :: d.entries.filter fun e => e.1 ≠ name) = _
  rw [List.lookup_cons, lookup_filter_ne]
  by_cases same : other = name
  · simp [same]
  · rw [if_neg same, if_neg same, beq_false_of_ne same]
    rfl

/-- The names that are taken, in order. -/
def names (d : Directory α) : List String :=
  (d.entries.map Prod.fst).mergeSort fun a b => decide (a ≤ b)

/-- The longest name, in bytes. -/
def longestName : Nat := 255

/-- Make a file under a name that is free. -/
def create (d : Directory α) (name : String) (content : α) : Except Fault (Directory α) :=
  if longestName < name.utf8ByteSize then .error .nameTooLong
  else if d.contains name then .error .taken
  else .ok (d.put name (.file content))

/-- Write a file, in place of one of that name. -/
def write (d : Directory α) (name : String) (content : α) : Except Fault (Directory α) :=
  if longestName < name.utf8ByteSize then .error .nameTooLong
  else
    match d.find? name with
    | some .folder => .error .isFolder
    | _ => .ok (d.put name (.file content))

/-- The content of a file. -/
def read (d : Directory α) (name : String) : Except Fault α :=
  match d.find? name with
  | some (.file content) => .ok content
  | some .folder => .error .isFolder
  | none => .error .missing

/-- Give a file another name, in place of a file of that name. -/
def rename (d : Directory α) (old new : String) : Except Fault (Directory α) :=
  match d.read old with
  | .error f => .error f
  | .ok content => (d.erase old).write new content

/-- Give a file another name, which has to be free. -/
def move (d : Directory α) (old new : String) : Except Fault (Directory α) :=
  match d.read old with
  | .error f => .error f
  | .ok content => (d.create new content).map fun d => d.erase old

/-- Remove a file. -/
def remove (d : Directory α) (name : String) : Except Fault (Directory α) :=
  match d.read name with
  | .error f => .error f
  | .ok _ => .ok (d.erase name)

end Directory

end StreamCatalog
