import Mathlib

namespace Coflux.Server

-- A browser takes a backslash for a slash where the page's scheme is http or https.
def urlSlash (c : Char) : Bool := c = '/' || c = '\\'

def lineBreak (c : Char) : Bool := c = '\r' || c = '\n'

def safeRelativeTarget : Option (List Char) → List Char
  | none | some [] => ['/']
  | some (first :: rest) =>
    if first ≠ '/' ∨ rest.head?.any urlSlash then ['/']
    else if (first :: rest).any lineBreak then ['/']
    else first :: rest

structure Site where
  (scheme host : String)
  port : Option Nat

-- The host parser, and what becomes of a location that does not begin with a slash.
structure UrlParser where
  authority : List Char → Option (String × Option Nat)
  other : Site → List Char → Option Site

namespace UrlParser

def blank (c : Char) : Bool := c.toNat ≤ 0x20

def dropped (c : Char) : Bool := c = '\t' || lineBreak c

-- Tabs and line breaks are taken out anywhere, other blanks at the end.
def trimmed : List Char → List Char
  | [] => []
  | c :: rest => if dropped c then trimmed rest else if blank c && rest.all blank then [] else c :: trimmed rest

def cleaned (location : List Char) : List Char := trimmed (location.dropWhile blank)

section
variable (p : UrlParser) (page : Site)

def authorityAt (text : List Char) : Option Site :=
  (p.authority ((text.dropWhile urlSlash).takeWhile (! ['/','\\','?','#'].contains ·))).map fun found =>
    ⟨page.scheme,found.1,found.2⟩

-- Two slashes begin an authority; after a single one only the path is new.
def resolve (location : List Char) : Option Site :=
  match cleaned location with
  | [] => p.other page []
  | first :: rest =>
    if !urlSlash first then p.other page (first :: rest)
    else if rest.head?.any urlSlash then p.authorityAt page rest
    else some page

end

theorem trimmed_slash (slash : urlSlash c = true) : trimmed (c :: rest) = c :: trimmed rest := by
  simp only [urlSlash,Bool.or_eq_true,decide_eq_true_eq] at slash
  rcases slash with rfl | rfl <;> rfl

theorem trimmed_tabs (slash : urlSlash c = true) :
    trimmed (List.replicate n '\t' ++ c :: rest) = c :: trimmed rest := by
  induction n with
  | zero => exact trimmed_slash slash
  | succ n ih => exact ih

-- Only tabs stood before the first character that is left.
theorem trimmed_head (whole : text.any lineBreak = false) (found : (trimmed text).head? = some c) :
    ∃ n rest, text = List.replicate n '\t' ++ c :: rest := by
  induction text with
  | nil => cases found
  | cons first text ih =>
    rw [List.any_cons,Bool.or_eq_false_iff] at whole
    rw [trimmed] at found
    split at found
    · rename_i gone
      simp only [dropped,whole.1,Bool.or_false,decide_eq_true_eq] at gone
      obtain ⟨n,rest,rfl⟩ := ih whole.2 found
      exact ⟨n + 1,rest,by rw [gone]; rfl⟩
    · split at found
      · cases found
      · cases found
        exact ⟨0,text,rfl⟩

theorem resolve_slash (p : UrlParser) (page : Site) (rest : List Char) : p.resolve page ('/' :: rest) =
    if (trimmed rest).head?.any urlSlash then p.authorityAt page (trimmed rest) else some page := by
  have same : cleaned ('/' :: rest) = '/' :: trimmed rest := trimmed_slash rfl
  rw [resolve,same]
  rfl

theorem authorityAt_slash {p : UrlParser} (slash : urlSlash c = true) :
    p.authorityAt page (c :: rest) = p.authorityAt page rest := by
  rw [authorityAt,List.dropWhile_cons_of_pos slash]
  rfl

end UrlParser

theorem target_cases (target : Option (List Char)) : safeRelativeTarget target = ['/'] ∨
    ∃ rest, target = some ('/' :: rest) ∧ safeRelativeTarget target = '/' :: rest ∧ rest.head?.any urlSlash = false ∧
      rest.any lineBreak = false := by
  rcases target with _ | (_ | ⟨first,rest⟩)
  · exact .inl rfl
  · exact .inl rfl
  · dsimp only [safeRelativeTarget]
    split
    · exact .inl rfl
    · rename_i starts
      split
      · exact .inl rfl
      · rename_i whole
        simp only [not_or,not_not,Bool.not_eq_true,List.any_cons,Bool.or_eq_false_iff] at starts whole
        exact .inr ⟨rest,by rw [starts.1],by rw [starts.1],starts.2,whole.2⟩

-- A tab after the first slash hides the second from the check, and the browser takes the tab out.
def Hides (text rest : List Char) : Prop :=
  text.any lineBreak = false ∧ ∃ n c, urlSlash c = true ∧ text = '/' :: (List.replicate (n + 1) '\t' ++ c :: rest)

open UrlParser in
theorem preview_redirect_stays_iff (p : UrlParser) (page : Site) (target : Option (List Char)) :
    (∀ site, p.resolve page (safeRelativeTarget target) = some site → site = page) ↔
      ∀ text rest, target = some text → Hides text rest →
        ∀ site, p.authorityAt page (trimmed rest) = some site → site = page := by
  constructor
  · rintro stays text rest rfl ⟨whole,n,c,slash,rfl⟩ site found
    have kept : safeRelativeTarget (some ('/' :: (List.replicate (n + 1) '\t' ++ c :: rest))) = _ :=
      if_neg (by rw [whole]; decide)
    apply stays
    rw [kept,resolve_slash,trimmed_tabs slash,authorityAt_slash slash]
    exact (if_pos slash).trans found
  · intro stays site resolved
    rcases target_cases target with plain | ⟨rest,rfl,kept,starts,whole⟩
    · rw [plain] at resolved
      cases resolved
      rfl
    · rw [kept,resolve_slash] at resolved
      split at resolved
      · rename_i found
        obtain ⟨c,head,slash⟩ := (Option.any_eq_true urlSlash _).mp found
        obtain ⟨n,more,rfl⟩ := trimmed_head whole head
        cases n with
        | zero => cases slash.symm.trans starts
        | succ n =>
          rw [trimmed_tabs slash,authorityAt_slash slash] at resolved
          exact stays _ more rfl ⟨whole,n,c,slash,rfl⟩ site resolved
      · cases resolved
        rfl

def plainHosts : UrlParser := ⟨fun text => some (String.ofList text,none),fun page _ => some page⟩

theorem preview_redirect_leaves : ∃ site, plainHosts.resolve ⟨"https","shell-preview",none⟩
    (safeRelativeTarget (some "/\t/evil.com".toList)) = some site ∧ site.host = "evil.com" :=
  ⟨⟨"https","evil.com",none⟩,rfl,rfl⟩

end Coflux.Server
