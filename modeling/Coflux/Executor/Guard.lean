import Mathlib

namespace Coflux.Executor
open Relation

abbrev Name := List Char

def pathFields : String → List String
  | "read" | "write" | "edit" => ["path","filePath","file"]
  | "ls" | "grep" | "find" => ["path","dir","directory"]
  | _ => []

def mutatingTools : List String := ["write","edit"]

inductive Argument where
  | text (value : List Char)
  | other

-- No record is an input that is not an object.
structure GuardInput where
  toolName : String
  input : Option (List (String × Argument))
  workspaceRoot : List Char
  writable : Bool

def startsWithSlash (path : List Char) : Bool := path.head? == some '/'

def enter (out : List Name) (segment : Name) : List Name :=
  if segment = [] ∨ segment = ['.'] then out
  else if segment = ['.','.'] then out.dropLast
  else out ++ [segment]

def normalizeSegments (path : List Char) : List Name := (path.splitOn '/').foldl enter []

def isInsideWorkspace (workspaceRoot candidate : List Char) : Bool :=
  let root := normalizeSegments workspaceRoot
  let target := normalizeSegments candidate
  startsWithSlash candidate && decide (root.length ≤ target.length) &&
    root.zipIdx.all fun indexed => target[indexed.2]? == some indexed.1

def collectPaths (toolName : String) (input : Option (List (String × Argument))) : List (List Char) :=
  match input with
  | none => []
  | some record => (pathFields toolName).filterMap fun field =>
    match record.lookup field with
    | some (.text value) => if value = [] then none else some value
    | _ => none

def judge (call : GuardInput) (path : List Char) : Option String :=
  let shown := String.ofList path
  let root := String.ofList call.workspaceRoot
  if !startsWithSlash path then
    some s!"{call.toolName} 的路径必须是绝对路径（收到 {shown}）；工作区根是 {root}"
  else if !isInsideWorkspace call.workspaceRoot path then
    some s!"{shown} 在工作区外。这个 executor 任务被限制在 {root} 之内，工作区外的文件读不到也改不了。"
  else none

def guardToolCall (call : GuardInput) : Option String :=
  if !call.writable && mutatingTools.contains call.toolName then
    some s!"这是只读模式的 executor 任务，不能用 {call.toolName} 改文件。只做调查与报告，把结论写进最终回复。"
  else (collectPaths call.toolName call.input).findSome? (judge call)

inductive Entry where
  | directory
  | file
  | link (target : List Char)

-- What stands at a place, by the names that lead to it from the root of the tree without links.
abbrev FileTree := List Name → Option Entry

-- A place that has been reached and the segments that are left.
abbrev Lookup := List Name × List Name

def lookupFrom (cwd : List Name) (path : List Char) : Lookup :=
  (if startsWithSlash path then [] else cwd,path.splitOn '/')

abbrev special (segment : Name) : Prop := segment = [] ∨ segment = ['.'] ∨ segment = ['.','.']

-- A segment that is no link. What does not exist yet is a directory or a file that a write creates.
inductive Enters (tree : FileTree) : Lookup → Lookup → Prop where
  | special : special name → Enters tree (place,name :: rest) (enter place name,rest)
  | plain : ¬special name → (∀ target, tree (place ++ [name]) ≠ some (.link target)) →
      (tree (place ++ [name]) = some .file → rest = []) →
      Enters tree (place,name :: rest) (enter place name,rest)

inductive Follows (tree : FileTree) : Lookup → Lookup → Prop where
  | link : ¬special name → tree (place ++ [name]) = some (.link target) →
      Follows tree (place,name :: rest) ((lookupFrom place target).1,(lookupFrom place target).2 ++ rest)

-- The resolution of a path as POSIX defines it.
def Resolves (tree : FileTree) : Lookup → Lookup → Prop :=
  ReflTransGen fun before after => Enters tree before after ∨ Follows tree before after

-- A structured tool opens a path it is given, and the workspace directory if it is given none.
inductive Opens (tree : FileTree) (call : GuardInput) (real : List Name) : Prop where
  | given : path ∈ collectPaths call.toolName call.input →
      Resolves tree (lookupFrom (normalizeSegments call.workspaceRoot) path) (real,[]) → Opens tree call real
  | workspace : real = normalizeSegments call.workspaceRoot → Opens tree call real

abbrev Inside (call : GuardInput) (real : List Name) : Prop := normalizeSegments call.workspaceRoot <+: real

-- What the last link on the way leaves to be resolved passes the check that the path passed.
def LinksInside (tree : FileTree) (call : GuardInput) : Prop :=
  ∀ path ∈ collectPaths call.toolName call.input, ∀ before after real,
    Resolves tree (lookupFrom (normalizeSegments call.workspaceRoot) path) before →
    Follows tree before after → ReflTransGen (Enters tree) after (real,[]) →
    Inside call (after.2.foldl enter after.1)

theorem inside_prefix (inside : isInsideWorkspace root path = true) :
    startsWithSlash path = true ∧ normalizeSegments root <+: normalizeSegments path := by
  simp only [isInsideWorkspace,Bool.and_eq_true,List.all_eq_true,decide_eq_true_eq] at inside
  obtain ⟨⟨absolute,_⟩,same⟩ := inside
  refine ⟨absolute,List.prefix_iff_getElem?.mpr fun index _ => ?_⟩
  have segment := same ((normalizeSegments root)[index],index) (List.mem_zipIdx_iff_getElem?.mpr (by simp))
  simpa using segment

theorem allowed_inside (allowed : guardToolCall call = none) (given : path ∈ collectPaths call.toolName call.input) :
    startsWithSlash path = true ∧ normalizeSegments call.workspaceRoot <+: normalizeSegments path := by
  unfold guardToolCall at allowed
  split at allowed
  · cases allowed
  · have judged := List.findSome?_eq_none_iff.mp allowed path given
    apply inside_prefix
    cases outside : isInsideWorkspace call.workspaceRoot path with
    | true => rfl
    | false =>
      simp only [judge,outside] at judged
      split at judged <;> simp at judged

-- Without links the place that is reached can be read off the path.
theorem enters_lexical (walked : ReflTransGen (Enters tree) start (real,[])) : start.2.foldl enter start.1 = real := by
  induction walked using ReflTransGen.head_induction_on with
  | refl => rfl
  | head step _ ih => cases step <;> exact ih

theorem last_other {r s : α → α → Prop} (walked : ReflTransGen (fun a b => r a b ∨ s a b) start stop) :
    ReflTransGen r start stop ∨ ∃ before after, ReflTransGen (fun a b => r a b ∨ s a b) start before ∧ s before after ∧
        ReflTransGen r after stop := by
  induction walked with
  | refl => exact Or.inl .refl
  | tail walked step ih =>
    rcases step with plain | other
    · rcases ih with all | ⟨before,after,reached,last,rest⟩
      · exact Or.inl (all.tail plain)
      · exact Or.inr ⟨before,after,reached,last,rest.tail plain⟩
    · exact Or.inr ⟨_,_,walked,other,.refl⟩

def readCall (path : String) : GuardInput :=
  ⟨"read",some [("path",.text path.toList)],"/repo".toList,false⟩

-- ln -s /etc etc in the workspace, then a read of /repo/etc/passwd.
def linkedTree : FileTree := fun place =>
  if place = ["repo".toList,"etc".toList] then some (.link "/etc".toList) else some .directory

end Coflux.Executor
