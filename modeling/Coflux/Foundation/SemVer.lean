import Mathlib

namespace SemVer

-- An identifier of a pre-release: numbers come before all others.
abbrev Identifier := Nat ⊕ₗ String

structure Version where
  (major minor patch : Nat)
  pre : List Identifier
  build : List String

-- A version comes after all of its pre-releases, and the build takes no part.
abbrev Rank := Nat ×ₗ Nat ×ₗ Nat ×ₗ WithTop (List Identifier)

def Version.rank (version : Version) : Rank :=
  toLex (version.major,toLex (version.minor,toLex (version.patch,
    if version.pre = [] then ⊤ else (version.pre : WithTop (List Identifier)))))

def isIdentifier (chars : List Char) : Bool := !chars.isEmpty && chars.all fun c => c.isAlphanum || c = '-'

def number (chars : List Char) : Option Nat :=
  if chars.isEmpty ∨ ¬ chars.all Char.isDigit ∨ (chars.head? = some '0' ∧ chars.length ≠ 1) then none
  else some (chars.foldl (fun total c => total * 10 + (c.toNat - 48)) 0)

def identifier (chars : List Char) : Option Identifier :=
  if chars.all Char.isDigit then (number chars).map fun n => toLex (.inl n)
  else if isIdentifier chars then some (toLex (.inr (String.ofList chars)))
  else none

def after (rest : List Char) : Option (List Char) :=
  match rest with
  | [] => none
  | _ :: more => some more

def parsePre : Option (List Char) → Option (List Identifier)
  | none => some []
  | some chars => (chars.splitOn '.').mapM identifier

def parseBuild : Option (List Char) → Option (List String)
  | none => some []
  | some chars =>
    if (chars.splitOn '.').all isIdentifier then some ((chars.splitOn '.').map String.ofList) else none

def coreNumber (limit : Nat) (chars : List Char) : Option Nat := (number chars).filter (· ≤ limit)

def parse (limit : Nat) (chars : List Char) : Option Version :=
  let (front,build) := chars.span (· ≠ '+')
  let (core,pre) := front.span (· ≠ '-')
  match core.splitOn '.' with
  | [major,minor,patch] =>
    (coreNumber limit major).bind fun major => (coreNumber limit minor).bind fun minor =>
      (coreNumber limit patch).bind fun patch => (parsePre (after pre)).bind fun pre =>
        (parseBuild (after build)).map fun build => ⟨major,minor,patch,pre,build⟩
  | _ => none

def showIdentifier (id : Identifier) : String :=
  match ofLex id with
  | .inl n => toString n
  | .inr text => text

def Version.show (version : Version) : String :=
  let core := s!"{version.major}.{version.minor}.{version.patch}"
  let pre := if version.pre = [] then core else core ++ "-" ++ ".".intercalate (version.pre.map showIdentifier)
  if version.build = [] then pre else pre ++ "+" ++ ".".intercalate version.build

def allowed (c : Char) : Bool := c.isAlphanum || c = '-' || c = '.' || c = '+'

theorem allowed_digit (digit : c.isDigit = true) : allowed c = true := by
  simp [allowed,Char.isAlphanum,digit]

theorem mem_intercalate (mem : c ∈ [separator].intercalate pieces) : c = separator ∨ ∃ piece ∈ pieces, c ∈ piece := by
  simp only [List.intercalate,List.mem_flatten] at mem
  obtain ⟨piece,mem,inside⟩ := mem
  induction pieces with
  | nil => cases mem
  | cons first rest ih =>
    cases rest with
    | nil => exact .inr ⟨piece,mem,inside⟩
    | cons second more =>
      simp only [List.intersperse_cons_cons,List.mem_cons] at mem
      rcases mem with rfl | rfl | later
      · exact .inr ⟨piece,List.mem_cons_self,inside⟩
      · exact .inl (List.mem_singleton.mp inside)
      · rcases ih later with same | ⟨other,listed,inside⟩
        · exact .inl same
        · exact .inr ⟨other,List.mem_cons_of_mem _ listed,inside⟩

theorem mem_splitOn {chars : List Char} (separator : Char) (mem : c ∈ chars) :
    c = separator ∨ ∃ piece ∈ chars.splitOn separator, c ∈ piece := by
  have whole : [separator].intercalate (chars.splitOn separator) = chars := List.intercalate_splitOn separator
  rw [← whole] at mem
  exact mem_intercalate mem

theorem mapM_each {f : α → Option β} {xs : List α} (mapped : xs.mapM f = some ys) (mem : x ∈ xs) : ∃ y, f x = some y := by
  induction xs generalizing ys with
  | nil => cases mem
  | cons first rest ih =>
    rw [List.mapM_cons] at mapped
    obtain ⟨y,found,mapped⟩ := Option.bind_eq_some_iff.mp mapped
    obtain ⟨_,found',_⟩ := Option.bind_eq_some_iff.mp mapped
    rcases List.mem_cons.mp mem with rfl | later
    · exact ⟨y,found⟩
    · exact ih found' later

theorem number_allowed (read : number chars = some n) (mem : c ∈ chars) : allowed c = true := by
  unfold number at read
  split at read
  · cases read
  · rename_i fine
    simp only [not_or,not_not] at fine
    exact allowed_digit (List.all_eq_true.mp fine.2.1 c mem)

theorem isIdentifier_allowed (read : isIdentifier chars = true) (mem : c ∈ chars) : allowed c = true := by
  simp only [isIdentifier,Bool.and_eq_true] at read
  have fine := List.all_eq_true.mp read.2 c mem
  simp only [allowed]
  rw [fine]
  rfl

theorem identifier_allowed (read : identifier chars = some named) (mem : c ∈ chars) : allowed c = true := by
  unfold identifier at read
  split at read
  · rename_i digits
    exact allowed_digit (List.all_eq_true.mp digits c mem)
  · split at read
    · rename_i shape
      exact isIdentifier_allowed shape mem
    · cases read

theorem parsePre_allowed (read : parsePre (some chars) = some ids) (mem : c ∈ chars) : allowed c = true := by
  rcases mem_splitOn '.' mem with rfl | ⟨piece,listed,inside⟩
  · rfl
  · obtain ⟨_,one⟩ := mapM_each read listed
    exact identifier_allowed one inside

theorem parseBuild_allowed (read : parseBuild (some chars) = some ids) (mem : c ∈ chars) : allowed c = true := by
  simp only [parseBuild] at read
  split at read
  · rename_i shapes
    rcases mem_splitOn '.' mem with rfl | ⟨piece,listed,inside⟩
    · rfl
    · exact isIdentifier_allowed (List.all_eq_true.mp shapes piece listed) inside
  · cases read

theorem after_allowed (separator : Char) (fine : allowed separator = true)
    (all : ∀ more, after rest = some more → ∀ c ∈ more, allowed c = true)
    (parted : ∀ c more, rest = c :: more → c = separator) (mem : c ∈ rest) : allowed c = true := by
  cases rest with
  | nil => cases mem
  | cons first more =>
    rcases List.mem_cons.mp mem with rfl | later
    · rw [parted _ more rfl]
      exact fine
    · exact all more rfl c later

theorem span_rest {separator : Char} (parted : List.span (· ≠ separator) chars = (front,rest)) :
    chars = front ++ rest ∧ ∀ c more, rest = c :: more → c = separator := by
  rw [List.span_eq_takeWhile_dropWhile] at parted
  cases parted
  refine ⟨List.takeWhile_append_dropWhile.symm,?_⟩
  intro c more same
  have stops := List.head?_dropWhile_not (fun c => decide (c ≠ separator)) chars
  rw [same] at stops
  simpa using stops

theorem parse_allowed (read : parse limit chars = some version) (mem : c ∈ chars) : allowed c = true := by
  unfold parse at read
  cases parts : chars.span (· ≠ '+') with
  | mk front build =>
  rw [parts] at read
  dsimp only at read
  cases halves : front.span (· ≠ '-') with
  | mk core pre =>
  rw [halves] at read
  dsimp only at read
  split at read
  · rename_i three
    simp only [Option.bind_eq_some_iff,Option.map_eq_some_iff,coreNumber,Option.filter_eq_some_iff] at read
    obtain ⟨_,⟨readMajor,_⟩,_,⟨readMinor,_⟩,_,⟨readPatch,_⟩,_,readPre,_,readBuild,_⟩ := read
    obtain ⟨rfl,plus⟩ := span_rest parts
    obtain ⟨rfl,dash⟩ := span_rest halves
    rcases List.mem_append.mp mem with inFront | inBuild
    · rcases List.mem_append.mp inFront with inCore | inPre
      · rcases mem_splitOn '.' inCore with rfl | ⟨piece,listed,inside⟩
        · rfl
        · rw [three] at listed
          simp only [List.mem_cons,List.not_mem_nil,or_false] at listed
          rcases listed with rfl | rfl | rfl
          · exact number_allowed readMajor inside
          · exact number_allowed readMinor inside
          · exact number_allowed readPatch inside
      · refine after_allowed '-' rfl ?_ dash inPre
        intro more behind c later
        rw [behind] at readPre
        exact parsePre_allowed readPre later
    · refine after_allowed '+' rfl ?_ plus inBuild
      intro more behind c later
      rw [behind] at readBuild
      exact parseBuild_allowed readBuild later
  · cases read

end SemVer
