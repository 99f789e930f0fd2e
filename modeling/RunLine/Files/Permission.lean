/-!
# Permissions

Who may do what with an entry of a tree.  Of the nine permission bits three are for the owner, three
for the group and three for everyone else, and only the first three of these that apply count.
-/

namespace RunLine

/-- What a user wants of an entry. -/
inductive Access where
  | read
  | write
  /-- To run a file, or to look for names in a directory. -/
  | execute
  deriving DecidableEq, Repr

/-- The number of the bit for an access among three. -/
def Access.position : Access → Nat
  | read => 2
  | write => 1
  | execute => 0

/-- In whose name a program runs. -/
structure User where
  id : Nat
  group : Nat
  /-- The other groups of the user. -/
  others : List Nat
  /-- The permission bits that are held back from whatever the user makes. -/
  mask : Nat
  /-- Whether the user may pass over permissions. -/
  privileged : Bool
  deriving DecidableEq, Repr

/-- The user to whom a machine belongs. -/
def User.root : User := ⟨0, 0, [], 0o022, true⟩

/-- To whom an entry belongs, and what its permission bits are. -/
structure Permissions where
  owner : Nat
  group : Nat
  mode : Nat
  deriving DecidableEq, Repr

namespace Permissions

/-- The permissions of an entry that belongs to the root user. -/
def ofMode (mode : Nat) : Permissions := ⟨0, 0, mode⟩

/-- The number of the least of the three bits that count for a user. -/
def shift (permissions : Permissions) (user : User) : Nat :=
  if permissions.owner = user.id then 6
  else if permissions.group = user.group ∨ permissions.group ∈ user.others then 3
  else 0

/-- Whether the bits that count for a user allow an access. -/
def allows (permissions : Permissions) (user : User) (access : Access) : Bool :=
  permissions.mode.testBit (permissions.shift user + access.position)

/-- The bits that allow to run a file. -/
def executeBits : Nat := 0o111

/-- Whether anyone may run a file. -/
def isExecutable (permissions : Permissions) : Bool := permissions.mode &&& executeBits != 0

end Permissions

/-- What the user makes has the bits that are asked for, but for those held back. -/
def User.made (user : User) (mode : Nat) : Permissions :=
  ⟨user.id, user.group, mode ^^^ (mode &&& user.mask)⟩

end RunLine
