import CommentSwitch.Text.Basic

/-!
# Keywords

The five tokens that mark directives in one kind of file, and how they classify
a line.  A line is classified by the token it starts with; tokens are tried in
the order `if`, `elseif`, `else`, `endif`.

- `Keywords.classify`: the directive on a trimmed line
- `Keywords.validate`: no token is empty, and none hides a later one
-/

namespace CommentSwitch

/-! ## §1 Tokens -/

/-- The roles of the five tokens. -/
inductive Role
  | ifRole | elseifRole | elseRole | endifRole | evalRole
  deriving DecidableEq, Repr

/-- The name of a role. -/
def Role.name : Role → Text
  | .ifRole => ['i', 'f']
  | .elseifRole => ['e', 'l', 's', 'e', 'i', 'f']
  | .elseRole => ['e', 'l', 's', 'e']
  | .endifRole => ['e', 'n', 'd', 'i', 'f']
  | .evalRole => ['e', 'v', 'a', 'l']

/-- The roles, in the order in which their tokens are tried. -/
def Role.all : List Role := [.ifRole, .elseifRole, .elseRole, .endifRole, .evalRole]

/-- One token for every role.  The `eval` token marks lines that are switched off. -/
@[ext] structure Keywords where
  ifToken : Text
  elseifToken : Text
  elseToken : Text
  endifToken : Text
  evalToken : Text
  deriving DecidableEq, Repr

namespace Keywords

/-- The tokens used where no others are registered. -/
def standard : Keywords where
  ifToken := Text.ofString "//#if"
  elseifToken := Text.ofString "//#elseif"
  elseToken := Text.ofString "//#else"
  endifToken := Text.ofString "//#endif"
  evalToken := Text.ofString "//$$"

/-- The token in a role. -/
def token (k : Keywords) : Role → Text
  | .ifRole => k.ifToken
  | .elseifRole => k.elseifToken
  | .elseRole => k.elseToken
  | .endifRole => k.endifToken
  | .evalRole => k.evalToken

/-- All roles with their tokens, in the order in which they are tried. -/
def inOrder (k : Keywords) : List (Role × Text) := Role.all.map fun r => (r, k.token r)

/-! ## §2 Directives -/

/-- What a line says. -/
inductive Directive
  /-- Opens a block; the text is what follows the token. -/
  | opening (rest : Text)
  /-- Opens a further branch of a block; the text is what follows the token. -/
  | branch (rest : Text)
  /-- Opens the branch for the case that no other was selected. -/
  | otherwise
  /-- Closes a block. -/
  | closing
  /-- An ordinary line, marked as switched off or not. -/
  | code
  deriving DecidableEq, Repr

/-- The directive on a trimmed line. -/
def classify (k : Keywords) (trimmed : Text) : Directive :=
  match Text.afterToken? k.ifToken trimmed with
  | some rest => .opening rest
  | none =>
    match Text.afterToken? k.elseifToken trimmed with
    | some rest => .branch rest
    | none =>
      if Text.startsWith k.elseToken trimmed then .otherwise
      else if Text.startsWith k.endifToken trimmed then .closing
      else .code

/-! ## §3 Validation -/

/-- What makes a set of tokens unusable. -/
inductive Defect
  /-- A token is empty. -/
  | empty (role : Role)
  /-- A token starts a later one, whose lines it would take. -/
  | hides (role : Role) (token : Text) (later : Role) (laterToken : Text)
  deriving DecidableEq, Repr

/-- The wording of a defect. -/
def Defect.text : Defect → Text
  | .empty role =>
    Text.ofString "Keyword '" ++ role.name ++ Text.ofString "' must not be empty"
  | .hides role token later laterToken =>
    Text.ofString "Keyword '" ++ role.name ++ Text.ofString "' (" ++ token
      ++ Text.ofString ") is a prefix of '" ++ later.name ++ Text.ofString "' ("
      ++ laterToken ++ Text.ofString ") and would hide it"

/-- The first token that starts a later one. -/
def firstHidden? : List (Role × Text) → Option Defect
  | [] => none
  | (role, token) :: later =>
    match later.find? fun e => Text.startsWith token e.2 with
    | some (hidden, hiddenToken) => some (.hides role token hidden hiddenToken)
    | none => firstHidden? later

/-- The first defect of a set of tokens: empty tokens come before hidden ones. -/
def defect? (k : Keywords) : Option Defect :=
  match k.inOrder.find? fun e => e.2.isEmpty with
  | some (role, _) => some (.empty role)
  | none => firstHidden? k.inOrder

/-- Checks that every token is set and that none hides a later one. -/
def validate (k : Keywords) : Except Defect Unit :=
  match k.defect? with
  | some d => .error d
  | none => .ok ()

end Keywords

end CommentSwitch
