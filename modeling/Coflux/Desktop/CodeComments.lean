import Mathlib

namespace Coflux.Desktop

-- Text as UTF-16 code units.
abbrev Units := List UInt16

def newline : UInt16 := 10

def blank (unit : UInt16) : Bool :=
  9 ≤ unit && unit ≤ 13 || 0x2000 ≤ unit && unit ≤ 0x200a ||
    [32,160,0x1680,0x2028,0x2029,0x202f,0x205f,0x3000,0xfeff].contains unit

def normalized (line : Units) : Units := ((line.dropWhile blank).reverse.dropWhile blank).reverse

def excerptMaxChars : Nat := 6000
def excerptMaxLines : Nat := 200

structure LineRange where
  (start stop : Nat)

structure AnnotationCodeAnchor where
  (startLine endLine : Nat)
  excerpt : Units

-- After the first line, as many whole ones as fit.
def moreLines (kept chars : Nat) : List Units → List Units
  | [] => []
  | text :: rest =>
    if excerptMaxLines ≤ kept ∨ excerptMaxChars < chars + 1 + text.length then []
    else text :: moreLines (kept + 1) (chars + 1 + text.length) rest

def excerptLines : List Units → List Units
  | [] => []
  | text :: rest =>
    let first := text.take excerptMaxChars
    first :: moreLines 1 first.length rest

section
variable (lines : List Units)

def buildExcerpt (range : LineRange) : Units :=
  [newline].intercalate (excerptLines ((lines.drop range.start).take (range.stop + 1 - range.start)))

def LineRange.anchor (range : LineRange) : AnnotationCodeAnchor :=
  ⟨range.start + 1,range.stop + 1,buildExcerpt lines range⟩

def matchesAt (wanted : List Units) (place : Nat) : Bool :=
  place + wanted.length ≤ lines.length && ((lines.drop place).take wanted.length).map normalized = wanted

end

namespace AnnotationCodeAnchor
variable (anchor : AnnotationCodeAnchor)

def wanted : List Units := (anchor.excerpt.splitOn newline).map normalized

def hint : Nat := anchor.startLine - 1

def distance (place : Nat) : Nat := (place - anchor.hint) + (anchor.hint - place)

def rangeAt (lines : List Units) (start : Nat) : LineRange :=
  ⟨start,min (lines.length - 1) (start + (anchor.endLine - anchor.startLine))⟩

-- The first of the nearest places with the text, where the loop ends up.
def nearest (lines : List Units) : Option Nat :=
  ((List.range (lines.length + 1 - anchor.wanted.length)).filter (matchesAt lines anchor.wanted)).argmin anchor.distance

end AnnotationCodeAnchor

def locateAnchor (lines : List Units) (anchor : AnnotationCodeAnchor) : Option LineRange :=
  if anchor.startLine < 1 ∨ anchor.endLine < anchor.startLine then none
  else if anchor.excerpt = [] then
    if anchor.endLine ≤ lines.length then some (anchor.rangeAt lines anchor.hint) else none
  else if matchesAt lines anchor.wanted anchor.hint then some (anchor.rangeAt lines anchor.hint)
  else (anchor.nearest lines).map (anchor.rangeAt lines)

def Located (lines : List Units) (anchor : AnnotationCodeAnchor) : Option LineRange → Prop
  | none => ∀ place, matchesAt lines anchor.wanted place = false
  | some range => range.start ≤ range.stop ∧ range.stop < lines.length ∧
    matchesAt lines anchor.wanted range.start = true ∧
      ∀ place, matchesAt lines anchor.wanted place = true → anchor.distance range.start ≤ anchor.distance place

section
variable {lines : List Units} {anchor : AnnotationCodeAnchor} {range : LineRange}

theorem matchesAt_parts : matchesAt lines wanted place = true ↔
    place + wanted.length ≤ lines.length ∧ ((lines.drop place).take wanted.length).map normalized = wanted := by
  simp [matchesAt]

theorem wanted_positive (anchor : AnnotationCodeAnchor) : 0 < anchor.wanted.length := by
  rw [AnnotationCodeAnchor.wanted,List.length_map]
  exact List.length_pos_iff.mpr (List.splitOn_ne_nil _ _)

theorem located_at (found : matchesAt lines anchor.wanted place = true)
    (least : ∀ other, matchesAt lines anchor.wanted other = true → anchor.distance place ≤ anchor.distance other) :
    Located lines anchor (some (anchor.rangeAt lines place)) := by
  have fits := (matchesAt_parts.mp found).1
  have positive := wanted_positive anchor
  refine ⟨?_,?_,found,least⟩
  all_goals
    simp only [AnnotationCodeAnchor.rangeAt]
    omega

theorem locate_located (ordered : 1 ≤ anchor.startLine ∧ anchor.startLine ≤ anchor.endLine) (filled : anchor.excerpt ≠ []) :
    Located lines anchor (locateAnchor lines anchor) := by
  rw [locateAnchor,if_neg (by omega),if_neg filled]
  split
  · rename_i found
    refine located_at found ?_
    intro other _
    simp [AnnotationCodeAnchor.distance]
  · have listed : ∀ place, matchesAt lines anchor.wanted place = true →
        place ∈ (List.range (lines.length + 1 - anchor.wanted.length)).filter (matchesAt lines anchor.wanted) := by
      intro place found
      have fits := (matchesAt_parts.mp found).1
      exact List.mem_filter.mpr ⟨List.mem_range.mpr (by omega),found⟩
    cases best : anchor.nearest lines with
    | none =>
      intro place
      rw [AnnotationCodeAnchor.nearest,List.argmin_eq_none] at best
      rw [best] at listed
      exact Bool.eq_false_iff.mpr fun found => List.not_mem_nil (listed place found)
    | some place =>
      refine located_at (List.mem_filter.mp (List.argmin_mem best)).2 ?_
      intro other found
      exact List.le_of_mem_argmin (listed other found) best

theorem moreLines_front (kept chars : Nat) (rest : List Units) : moreLines kept chars rest <+: rest := by
  induction rest generalizing kept chars with
  | nil => exact List.prefix_rfl
  | cons text rest ih =>
    rw [moreLines]
    split
    · exact List.nil_prefix
    · exact List.prefix_cons_inj text |>.mpr (ih _ _)

-- The lines behind the first are whole.
theorem built_excerpt (ordered : range.start ≤ range.stop) (rows : lines.drop range.start = first :: rest) :
    ∃ more behind, more ++ behind = rest ∧
      (range.anchor lines).excerpt = [newline].intercalate (first.take excerptMaxChars :: more) := by
  obtain ⟨behind,parts⟩ := (moreLines_front 1 (first.take excerptMaxChars).length (rest.take (range.stop - range.start))).trans
    ( List.take_prefix _ rest)
  refine ⟨_,behind,parts,?_⟩
  rw [LineRange.anchor,buildExcerpt,rows,Nat.sub_add_comm ordered,List.take_succ_cons,excerptLines]

theorem locate_built (unbroken : ∀ line ∈ lines, newline ∉ line) (ordered : range.start ≤ range.stop)
    (inside : range.stop < lines.length) (rows : lines.drop range.start = first :: rest) :
    locateAnchor lines (range.anchor lines) = some range ↔ normalized (first.take excerptMaxChars) = normalized first := by
  obtain ⟨more,behind,rfl,excerpt⟩ := built_excerpt ordered rows
  have sound : ∀ line ∈ first :: (more ++ behind), newline ∉ line :=
    fun line mem => unbroken line (List.mem_of_mem_drop (rows ▸ mem))
  rw [List.forall_mem_cons,List.forall_mem_append] at sound
  have wanted : (range.anchor lines).wanted = (first.take excerptMaxChars :: more).map normalized := by
    rw [AnnotationCodeAnchor.wanted,excerpt,List.splitOn_intercalate newline _ (List.cons_ne_nil _ _)]
    exact List.forall_mem_cons.mpr ⟨fun mem => sound.1 (List.mem_of_mem_take mem),sound.2.1⟩
  have length := congrArg List.length rows
  have matched : matchesAt lines (range.anchor lines).wanted range.start = true ↔
      normalized (first.take excerptMaxChars) = normalized first := by
    rw [matchesAt_parts,wanted,rows]
    simp only [List.length_drop,List.length_map,List.length_cons,List.length_append] at length ⊢
    simp only [List.take_succ_cons,List.map_cons,List.take_left,List.cons.injEq,and_true]
    exact ⟨fun both => both.2.symm,fun same => ⟨by omega,same.symm⟩⟩
  have last : min (lines.length - 1) (range.start + (range.stop + 1 - (range.start + 1))) = range.stop := by omega
  have stored : (range.anchor lines).rangeAt lines range.start = range := congrArg (LineRange.mk range.start) last
  constructor
  · intro found
    by_cases empty : (range.anchor lines).excerpt = []
    · have cut : first.take excerptMaxChars = [] := by cases more <;> simp_all [List.intercalate]
      have nothing : first = [] := by simpa [excerptMaxChars] using cut
      rw [nothing,List.take_nil]
    · have located := @locate_located lines _ ⟨by simp [LineRange.anchor],by simp [LineRange.anchor,ordered]⟩ empty
      rw [found] at located
      exact matched.mp located.2.2.1
  · intro same
    rw [locateAnchor,if_neg (by simp [LineRange.anchor,ordered])]
    split
    · exact (if_pos inside).trans (congrArg some stored)
    · exact (if_pos (matched.mpr same)).trans (congrArg some stored)

end

theorem code_comment_located (lines : List Units) :
    ((∀ line ∈ lines, newline ∉ line) → ∀ range : LineRange, range.start ≤ range.stop → range.stop < lines.length →
      (locateAnchor lines (range.anchor lines) = some range ↔
        ∀ first ∈ lines[range.start]?, normalized (first.take excerptMaxChars) = normalized first)) ∧
    ∀ anchor : AnnotationCodeAnchor, 1 ≤ anchor.startLine ∧ anchor.startLine ≤ anchor.endLine → anchor.excerpt ≠ [] →
      Located lines anchor (locateAnchor lines anchor) := by
  refine ⟨?_,fun _ ordered filled => locate_located ordered filled⟩
  intro unbroken range ordered inside
  have there : range.start < lines.length := by omega
  rw [locate_built unbroken ordered inside (List.drop_eq_getElem_cons there),List.getElem?_eq_getElem there]
  simp

-- A line that is longer than the excerpt may be is not found again.
theorem long_line_lost : ∃ line, newline ∉ line ∧ locateAnchor [line] (LineRange.anchor [line] ⟨0,0⟩) ≠ some ⟨0,0⟩ := by
  refine ⟨List.replicate (excerptMaxChars + 1) 97,by simp [newline],?_⟩
  have plain : ∀ n, normalized (List.replicate n 97) = List.replicate n 97 := by simp [normalized,blank]
  rw [Ne,locate_built (by simp [newline]) (Nat.le_refl _) (by decide) rfl,List.take_replicate,plain,plain]
  intro same
  exact absurd (congrArg List.length same) (by simp)

end Coflux.Desktop
