import Coflux.Executor.Guard
import Coflux.Foundation.Json

namespace Coflux.Executor

-- Rules of which the last that matches decides.

def writableDevices : List String :=
  ["/dev/null","/dev/stdout","/dev/stderr","/dev/tty","/dev/dtracehelper"]

structure SandboxInput where
  workspaceRoot : List Char
  writable : Bool
  (nestedWorktrees gitDirs : List (List Char))
  scratchDir : List Char

def stringify (path : List Char) : String :=
  String.ofList (Text.decodeLossy (Json.string (String.ofList path)))

def assertProfilePath (label : String) (path : List Char) : Except String Unit :=
  if !startsWithSlash path then
    .error s!"executor 沙箱：{label} 必须是绝对路径，收到 {stringify path}"
  else if path.any ['"','\\','\n','\r'].contains then
    .error s!"executor 沙箱：{label} 含引号或换行，拒绝写进 profile：{stringify path}"
  else if path ≠ ['/'] ∧ path.getLast? = some '/' then
    .error s!"executor 沙箱：{label} 不应以斜杠结尾（subpath 前缀语义会变），收到 {stringify path}"
  else if (path.splitOn '/').contains ['.','.'] || (path.splitOn '/').contains ['.'] then
    .error s!"executor 沙箱：{label} 必须是 realpath 解析后的路径，不能含 . 或 ..：{stringify path}"
  else if ["/var","/tmp","/etc"].any fun link =>
      path == link.toList || (link.toList ++ ['/']).isPrefixOf path then
    .error (s!"executor 沙箱：{label} 看起来未经 realpath 解析（{String.ofList path}）——macOS 上 /var /tmp /etc " ++
      "都是指向 /private 的符号链接，直接写进 profile 规则会静默失效")
  else .ok ()

inductive Operation where
  | default
  | network
  | fileWrite
  deriving DecidableEq

inductive Filter where
  | all
  | subpath (path : List Char)
  | literals (paths : List String)
  deriving DecidableEq

structure Rule where
  allow : Bool
  operation : Operation
  filter : Filter
  deriving DecidableEq

def SandboxInput.rules (input : SandboxInput) : List Rule :=
  [⟨true,.default,.all⟩,⟨false,.network,.all⟩,⟨false,.fileWrite,.all⟩] ++
    (if input.writable then [⟨true,.fileWrite,.subpath input.workspaceRoot⟩] else []) ++
    [⟨true,.fileWrite,.subpath input.scratchDir⟩,⟨true,.fileWrite,.literals writableDevices⟩] ++
    input.gitDirs.map (⟨false,.fileWrite,.subpath ·⟩) ++
    input.nestedWorktrees.map (⟨false,.fileWrite,.subpath ·⟩)

def buildSandboxProfile (input : SandboxInput) : Except String (List Rule) := do
  assertProfilePath "工作区根" input.workspaceRoot
  assertProfilePath "scratch 目录" input.scratchDir
  input.nestedWorktrees.forM (assertProfilePath "嵌套 worktree")
  input.gitDirs.forM (assertProfilePath "git 目录")
  return input.rules

abbrev At (dir : List Char) (place : List Name) : Prop := normalizeSegments dir <+: place

def Filter.matches (place : List Name) : Filter → Bool
  | .all => true
  | .subpath path => decide (At path place)
  | .literals paths => paths.any fun path => normalizeSegments path.toList == place

def decides (place : List Name) (verdict : Bool) (rule : Rule) : Bool :=
  if rule.operation ≠ .network ∧ rule.filter.matches place then rule.allow else verdict

def mayWrite (profile : List Rule) (place : List Name) : Bool := profile.foldl (decides place) false

-- String.prototype.trim
def isBlank (c : Char) : Bool :=
  (9 ≤ c.toNat && c.toNat ≤ 13) || (0x2000 ≤ c.toNat && c.toNat ≤ 0x200a) ||
    [0x20,0xa0,0x1680,0x2028,0x2029,0x202f,0x205f,0x3000,0xfeff].contains c.toNat

def trim (text : List Char) : List Char := ((text.dropWhile isBlank).reverse.dropWhile isBlank).reverse

def worktreeMark : List Char := "worktree ".toList

-- The registered worktrees as git lists them, the workspace's own among them.
def worktreePaths (porcelain : List Char) : List (List Char) :=
  (((porcelain.splitOn '\n').filter worktreeMark.isPrefixOf).map
    fun line => trim (line.drop worktreeMark.length)).filter (· ≠ [])

def otherWorktreePaths (porcelain selfRoot : List Char) : List (List Char) :=
  (worktreePaths porcelain).filter (· ≠ selfRoot)

-- What git prints, or nothing where it fails because there is no repository.
def collectOtherWorktrees (listed : Option (List Char)) (root : List Char) : List (List Char) :=
  match listed with
  | some stdout => (otherWorktreePaths stdout root).eraseDups
  | none => []

abbrev Registered (listed : Option (List Char)) (path : List Char) : Prop := path ∈ listed.elim [] worktreePaths

section
variable (input : SandboxInput) (listed : Option (List Char))

def Excepted (place : List Name) : Prop :=
  At input.scratchDir place ∨ ∃ device ∈ writableDevices, normalizeSegments device.toList = place

def InNested (place : List Name) : Prop :=
  ∃ path, Registered listed path ∧ path ≠ input.workspaceRoot ∧
    At input.workspaceRoot (normalizeSegments path) ∧ At path place

def WriteBoundary (profile : List Rule) : Prop :=
  ∀ place, ¬Excepted input place → (mayWrite profile place = true ↔
    input.writable = true ∧ At input.workspaceRoot place ∧ (∀ dir ∈ input.gitDirs, ¬At dir place) ∧
      ¬InNested input listed place)

-- Another worktree around the workspace does no harm where nothing is to be writable.
def NoneAround : Prop :=
  ∀ path, Registered listed path → path ≠ input.workspaceRoot →
    At path (normalizeSegments input.workspaceRoot) → ∀ place, ¬Excepted input place →
    At input.workspaceRoot place → (∀ dir ∈ input.gitDirs, ¬At dir place) → InNested input listed place

end

theorem denies_foldl (paths : List (List Char)) (verdict : Bool) :
    (paths.map fun path => Rule.mk false .fileWrite (.subpath path)).foldl (decides place) verdict = true ↔
      verdict = true ∧ ∀ path ∈ paths, ¬At path place := by
  induction paths generalizing verdict with
  | nil => simp
  | cons path rest ih =>
    rw [List.map_cons,List.foldl_cons,ih]
    by_cases under : At path place <;> simp [decides,Filter.matches,under]

theorem rules_mayWrite (free : ¬Excepted input place) : mayWrite input.rules place = true ↔
      (input.writable = true ∧ At input.workspaceRoot place) ∧ (∀ dir ∈ input.gitDirs, ¬At dir place) ∧
        ∀ path ∈ input.nestedWorktrees, ¬At path place := by
  obtain ⟨scratch,device⟩ := not_or.mp free
  have literal : (Filter.literals writableDevices).matches place = false := by
    simpa [Filter.matches] using device
  simp only [mayWrite,SandboxInput.rules,List.foldl_append,denies_foldl,and_assoc]
  cases input.writable <;> simp [decides,literal] <;> simp [Filter.matches,scratch]

theorem build_rules (accepted : buildSandboxProfile input = .ok profile) : profile = input.rules := by
  simp only [buildSandboxProfile,bind,Except.bind,pure,Except.pure] at accepted
  repeat' split at accepted
  all_goals first | cases accepted; rfl | cases accepted

theorem mem_collectOtherWorktrees :
    path ∈ collectOtherWorktrees listed root ↔ Registered listed path ∧ path ≠ root := by
  cases listed <;> simp [collectOtherWorktrees,otherWorktreePaths,Registered]

-- A workspace below the main worktree, where the project keeps its worktrees.
def belowMain : SandboxInput :=
  ⟨"/repo/.claude/worktrees/a".toList,true,["/repo".toList],["/repo/.git".toList],"/private/tmp/s".toList⟩

def listedMain : List Char :=
  "worktree /repo\nbare\n\nworktree /repo/.claude/worktrees/a\ndetached\n\n".toList

theorem listed_main : worktreePaths listedMain = ["/repo".toList,belowMain.workspaceRoot] := by decide +kernel

end Coflux.Executor
