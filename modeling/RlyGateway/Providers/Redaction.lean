import Mathlib.Data.List.Find
import RlyGateway.Library.Latest
import RlyGateway.Library.MatchReplacing

/-!
# Redaction of upstream errors

`redactUpstreamError` of `src/providers/catalog-discovery.ts`. Three patterns are replaced one after
the other in a text of UTF-16 code units: tokens behind the word Bearer, values behind the name of a
credential, and mail addresses. A value that stands behind a text is hidden exactly where a pair that
is open in this text goes on over it, and it does not end in a word of its own that changes what
follows.
-/

namespace RlyGateway

/-! ## Classes of code units -/

/-- The class of spaces, `\s`. -/
def isSpaceUnit (unit : ℕ) : Bool :=
  decide ((9 ≤ unit ∧ unit ≤ 13) ∨ unit = 32 ∨ unit = 160 ∨ unit = 0x1680 ∨
    (0x2000 ≤ unit ∧ unit ≤ 0x200A) ∨ unit = 0x2028 ∨ unit = 0x2029 ∨ unit = 0x202F ∨
    unit = 0x205F ∨ unit = 0x3000 ∨ unit = 0xFEFF)

def isLetterUnit (unit : ℕ) : Bool :=
  decide ((65 ≤ unit ∧ unit ≤ 90) ∨ (97 ≤ unit ∧ unit ≤ 122))

def isDigitUnit (unit : ℕ) : Bool := decide (48 ≤ unit ∧ unit ≤ 57)

/-- `[A-Za-z0-9._~+/=-]` -/
def isBearerUnit (unit : ℕ) : Bool :=
  isLetterUnit unit || isDigitUnit unit || decide (unit ∈ utf16Units "._~+/=-")

/-- `[^\s,;"']` -/
def isValueUnit (unit : ℕ) : Bool :=
  !(isSpaceUnit unit || decide (unit ∈ utf16Units ",;\"'"))

/-- `[:=]` -/
def isSeparatorUnit (unit : ℕ) : Bool := decide (unit = 58 ∨ unit = 61)

/-- `[A-Za-z0-9._%+-]` -/
def isLocalUnit (unit : ℕ) : Bool :=
  isLetterUnit unit || isDigitUnit unit || decide (unit ∈ utf16Units "._%+-")

/-- `[A-Za-z0-9.-]` -/
def isDomainUnit (unit : ℕ) : Bool :=
  isLetterUnit unit || isDigitUnit unit || decide (unit ∈ utf16Units ".-")

/-- How the flag `i` compares the letters of a pattern. -/
def lowerUnit (unit : ℕ) : ℕ := if 65 ≤ unit ∧ unit ≤ 90 then unit + 32 else unit

/-! ## The patterns -/

/-- `\s+[A-Za-z0-9._~+/=-]+`, which has no unit in both classes. -/
def bearerTail : List ℕ → Option ℕ
  | [] => none
  | unit :: rest =>
      if isSpaceUnit unit then (spacedRun isSpaceUnit isBearerUnit rest).map (· + 1) else none

/-- `/(bearer)\s+[A-Za-z0-9._~+/=-]+/gi` -/
def bearerMatch : MatchPattern ℕ := fun text =>
  if (text.take 6).map lowerUnit = utf16Units "bearer" then
    (bearerTail (text.drop 6)).map fun length =>
      (text.take 6 ++ utf16Units " [REDACTED]", 5 + length)
  else none

/-- The alternatives of the names, with and without what stands between two words. -/
def credentialKeys : List (List ℕ) :=
  ["authorization", "api_key", "api-key", "apikey", "access_token", "access-token", "accesstoken",
    "refresh_token", "refresh-token", "refreshtoken", "token", "password", "secret"].map utf16Units

/-- The length of the name at the front of a text. -/
def credentialKey? (text : List ℕ) : Option ℕ :=
  (credentialKeys.find? fun key => (text.take key.length).map lowerUnit = key).map List.length

/-- `\s*[:=]\s*[^\s,;"']+` -/
def pairTail : List ℕ → Option ℕ
  | [] => none
  | unit :: rest =>
      if isSpaceUnit unit then (pairTail rest).map (· + 1)
      else if isSeparatorUnit unit then
        (spacedRun isSpaceUnit isValueUnit rest).map (· + 1)
      else none

/-- `/(authorization|api[_-]?key|…|secret)\s*[:=]\s*[^\s,;"']+/gi` -/
def credentialPair : MatchPattern ℕ := fun text =>
  (credentialKey? text).bind fun key =>
    (pairTail (text.drop key)).map fun length =>
      (text.take key ++ utf16Units "=[REDACTED]", key + length - 1)

/-- The end of `\.[A-Za-z]{2,}` for the last dot that has it. -/
def lastLabel : List ℕ → Option ℕ
  | [] => none
  | unit :: rest =>
      match lastLabel rest with
      | some length => some (length + 1)
      | none =>
          let letters := rest.takeWhile isLetterUnit
          if unit = 46 ∧ 2 ≤ letters.length then some (letters.length + 1) else none

/-- `[A-Za-z0-9.-]+\.[A-Za-z]{2,}` in a run of `[A-Za-z0-9.-]`, which gives back from its end. -/
def domainLength : List ℕ → Option ℕ
  | [] => none
  | _ :: rest => (lastLabel rest).map (· + 1)

/-- `@[A-Za-z0-9.-]+\.[A-Za-z]{2,}` behind its sign. -/
def mailTail : List ℕ → Option ℕ
  | [] => none
  | unit :: rest => if unit = 64 then domainLength (rest.takeWhile isDomainUnit) else none

/-- `/[A-Za-z0-9._%+-]+@[A-Za-z0-9.-]+\.[A-Za-z]{2,}/g` -/
def emailAddress : MatchPattern ℕ := fun text =>
  let localPart := text.takeWhile isLocalUnit
  if localPart = [] then none
  else (mailTail (text.drop localPart.length)).map fun length =>
    (utf16Units "[REDACTED-EMAIL]", localPart.length + length)

def redactUpstreamError (text : List ℕ) : List ℕ :=
  emailAddress.replaceAll (credentialPair.replaceAll (bearerMatch.replaceAll text))

example : redactUpstreamError (utf16Units "api_key=zzz password=hunter2") =
    utf16Units "api_key=[REDACTED] password=[REDACTED]" := by decide

/-! ## Facts about the classes -/

theorem isSpaceUnit_of_isBearerUnit (unit : ℕ) (h : isBearerUnit unit = true) :
    isSpaceUnit unit = false := by
  have hsymbols : utf16Units "._~+/=-" = [46, 95, 126, 43, 47, 61, 45] := by decide
  simp only [isBearerUnit, isLetterUnit, isDigitUnit, hsymbols, Bool.or_eq_true, decide_eq_true_eq,
    List.mem_cons, List.not_mem_nil, or_false] at h
  simp only [isSpaceUnit, decide_eq_false_iff_not]
  omega

theorem isSpaceUnit_of_isValueUnit (unit : ℕ) (h : isValueUnit unit = true) :
    isSpaceUnit unit = false := by
  simp only [isValueUnit, Bool.not_eq_true', Bool.or_eq_false_iff] at h
  exact h.1

/-- The units of names are letters, underscores and hyphens. -/
def isKeyUnit (unit : ℕ) : Bool := isLetterUnit unit || decide (unit = 95 ∨ unit = 45)

theorem isKeyUnit_of_lowerUnit {unit : ℕ} (h : isKeyUnit (lowerUnit unit) = true) :
    isKeyUnit unit = true := by
  simp only [isKeyUnit, isLetterUnit, Bool.or_eq_true, decide_eq_true_eq] at h ⊢
  by_cases hupper : 65 ≤ unit ∧ unit ≤ 90
  · exact .inl (.inl hupper)
  · rwa [lowerUnit, if_neg hupper] at h

theorem isBearerUnit_of_isKeyUnit {unit : ℕ} (h : isKeyUnit unit = true) :
    isBearerUnit unit = true := by
  have hsymbols : utf16Units "._~+/=-" = [46, 95, 126, 43, 47, 61, 45] := by decide
  simp only [isKeyUnit, Bool.or_eq_true, decide_eq_true_eq] at h
  simp only [isBearerUnit, hsymbols, Bool.or_eq_true, decide_eq_true_eq, List.mem_cons,
    List.not_mem_nil, or_false]
  obtain hletter | hsymbol := h
  · exact .inl (.inl hletter)
  · refine .inr ?_
    omega

theorem isValueUnit_of_isKeyUnit {unit : ℕ} (h : isKeyUnit unit = true) :
    isValueUnit unit = true := by
  have hdelimiters : utf16Units ",;\"'" = [44, 59, 34, 39] := by decide
  have hspace := isSpaceUnit_of_isBearerUnit unit (isBearerUnit_of_isKeyUnit h)
  simp only [isKeyUnit, isLetterUnit, Bool.or_eq_true, decide_eq_true_eq] at h
  simp only [isValueUnit, hspace, hdelimiters, Bool.false_or, Bool.not_eq_true',
    decide_eq_false_iff_not, List.mem_cons, List.not_mem_nil, or_false]
  omega

theorem isSeparatorUnit_of_isKeyUnit {unit : ℕ} (h : isKeyUnit unit = true) :
    isSeparatorUnit unit = false := by
  simp only [isKeyUnit, isLetterUnit, Bool.or_eq_true, decide_eq_true_eq] at h
  simp only [isSeparatorUnit, decide_eq_false_iff_not]
  omega

theorem isKeyUnit_of_mem {key : List ℕ} (hkey : key ∈ credentialKeys) {unit : ℕ}
    (hunit : unit ∈ key) : isKeyUnit unit = true := by
  have hall : ∀ key ∈ credentialKeys, ∀ unit ∈ key, isKeyUnit unit = true := by decide
  exact hall key hkey unit hunit

theorem isLetterUnit_of_lowerUnit {unit : ℕ} (h : lowerUnit unit ∈ utf16Units "bearer") :
    isLetterUnit unit = true := by
  have hword : utf16Units "bearer" = [98, 101, 97, 114, 101, 114] := by decide
  rw [hword] at h
  simp only [lowerUnit, List.mem_cons, List.not_mem_nil, or_false] at h
  simp only [isLetterUnit, decide_eq_true_eq]
  split at h <;> omega

theorem isKeyUnit_of_isSpaceUnit {unit : ℕ} (h : isSpaceUnit unit = true) :
    isKeyUnit unit = false := by
  cases hkey : isKeyUnit unit with
  | false => rfl
  | true =>
      rw [isSpaceUnit_of_isBearerUnit unit (isBearerUnit_of_isKeyUnit hkey)] at h
      cases h

theorem lowerUnit_ne_of_isSpaceUnit {unit : ℕ} (h : isSpaceUnit unit = true) :
    lowerUnit unit ≠ 98 := by
  intro heq
  have hkey : isKeyUnit unit = true := isKeyUnit_of_lowerUnit (by rw [heq]; decide)
  rw [isKeyUnit_of_isSpaceUnit h] at hkey
  cases hkey

/-! ## Words at the front of a text -/

/-- A word that does not hold a unit is found before it or not at all. -/
theorem take_map_append_eq_iff (word front rest : List ℕ) {bar : ℕ} (h : lowerUnit bar ∉ word) :
    ((front ++ bar :: rest).take word.length).map lowerUnit = word ↔
      (front.take word.length).map lowerUnit = word := by
  by_cases hlength : word.length ≤ front.length
  · rw [List.take_append_of_le_length hlength]
  · refine iff_of_false (fun hword => h ?_) (fun hword => hlength ?_)
    · rw [← hword]
      refine List.mem_map_of_mem ?_
      rw [List.take_append, show word.length - front.length =
        word.length - front.length - 1 + 1 by omega, List.take_succ_cons]
      exact List.mem_append_right _ (List.mem_cons_self ..)
    · have hlengths := congrArg List.length hword
      rw [List.length_map, List.length_take] at hlengths
      omega

theorem length_le_of_take_map_eq (word : List ℕ) {text : List ℕ}
    (h : (text.take word.length).map lowerUnit = word) : word.length ≤ text.length := by
  have hlengths := congrArg List.length h
  rw [List.length_map, List.length_take] at hlengths
  omega

/-- The last letter of the word Bearer. -/
theorem exists_last_of_word {word : List ℕ} (hword : word.map lowerUnit = utf16Units "bearer") :
    ∃ letters last, word = letters ++ [last] ∧ lowerUnit last = 114 := by
  have hletters : utf16Units "bearer" = utf16Units "beare" ++ [114] := by decide
  obtain ⟨letters, lasts, rfl, -, hlasts⟩ := List.map_eq_append_iff.1 (hword.trans hletters)
  obtain ⟨last, rest, rfl, hlast, hrest⟩ := List.map_eq_cons_iff.1 hlasts
  rw [List.map_eq_nil_iff.1 hrest]
  exact ⟨letters, last, rfl, hlast⟩

/-! ## Bearer tokens -/

theorem bearerTail_le {text : List ℕ} {length : ℕ} (h : bearerTail text = some length) :
    0 < length ∧ length ≤ text.length := by
  cases text with
  | nil => cases h
  | cons unit text =>
      rw [bearerTail] at h
      split at h
      · obtain ⟨inner, hinner, rfl⟩ := Option.map_eq_some_iff.1 h
        have := spacedRun_le hinner
        rw [List.length_cons]
        omega
      · cases h

theorem bearerTail_of_spaces {spaces : List ℕ} (h : ∀ unit ∈ spaces, isSpaceUnit unit = true) :
    bearerTail spaces = none := by
  cases spaces with
  | nil => rfl
  | cons unit spaces =>
      obtain ⟨hunit, hspaces⟩ := List.forall_mem_cons.1 h
      rw [bearerTail, if_pos hunit, spacedRun_of_spaces hspaces]
      rfl

/-- What makes a token begins with a space, and goes on with one or with the token. -/
theorem exists_of_bearerTail {text : List ℕ} {length : ℕ} (h : bearerTail text = some length) :
    ∃ space unit rest, text = space :: unit :: rest ∧ isSpaceUnit space = true ∧
      (isSpaceUnit unit = true ∨ isBearerUnit unit = true) := by
  cases text with
  | nil => cases h
  | cons space text =>
      rw [bearerTail] at h
      split at h
      · next hspace =>
          obtain ⟨inner, hinner, -⟩ := Option.map_eq_some_iff.1 h
          cases text with
          | nil => cases hinner
          | cons unit rest =>
              refine ⟨space, unit, rest, rfl, hspace, ?_⟩
              by_contra hneither
              obtain ⟨hunit, hbearer⟩ := not_or.1 hneither
              rw [spacedRun, if_neg hunit, if_neg hbearer] at hinner
              cases hinner
      · cases h

theorem bearerMatch_eq_some {text replacement : List ℕ} {more : ℕ}
    (h : bearerMatch text = some (replacement, more)) : ∃ length,
      (text.take 6).map lowerUnit = utf16Units "bearer" ∧
      bearerTail (text.drop 6) = some length ∧
      replacement = text.take 6 ++ utf16Units " [REDACTED]" ∧ more = 5 + length := by
  unfold bearerMatch at h
  split at h
  · next hword =>
      obtain ⟨length, hlength, hfound⟩ := Option.map_eq_some_iff.1 h
      obtain ⟨rfl, rfl⟩ := Prod.mk.inj hfound
      exact ⟨length, hword, hlength, rfl, rfl⟩
  · cases h

theorem bearerMatch_bounded : bearerMatch.Bounded := by
  intro text replacement more h
  obtain ⟨length, hword, hlength, -, rfl⟩ := bearerMatch_eq_some h
  have hsix := length_le_of_take_map_eq (utf16Units "bearer") hword
  have hbound := (bearerTail_le hlength).2
  have hsix' : (utf16Units "bearer").length = 6 := by decide
  rw [List.length_drop] at hbound
  omega

/-- A token begins with the first letter of its word. -/
theorem bearerMatch_cons {unit : ℕ} (h : lowerUnit unit ≠ 98) (rest : List ℕ) :
    bearerMatch (unit :: rest) = none := by
  have hword : utf16Units "bearer" = [98, 101, 97, 114, 101, 114] := by decide
  unfold bearerMatch
  rw [if_neg fun hfound => ?_]
  rw [hword, List.take_succ_cons, List.map_cons] at hfound
  exact h (List.cons.inj hfound).1

theorem bearerTail_bar {bar : ℕ} (hspace : isSpaceUnit bar = false)
    (hbearer : isBearerUnit bar = false) (front rest : List ℕ) :
    bearerTail (front ++ bar :: rest) = bearerTail front := by
  cases front with
  | nil => simp [bearerTail, hspace]
  | cons unit front =>
      rw [List.cons_append, bearerTail, bearerTail, spacedRun_bar hspace hbearer]

theorem bearerMatch_bars {bar : ℕ} (hspace : isSpaceUnit bar = false)
    (hbearer : isBearerUnit bar = false) : bearerMatch.Bars bar := by
  have hletter : lowerUnit bar ∉ utf16Units "bearer" := by
    intro hmem
    have hletter := isLetterUnit_of_lowerUnit hmem
    simp [isBearerUnit, hletter] at hbearer
  have hfirst : lowerUnit bar ≠ 98 := by
    intro heq
    rw [heq] at hletter
    exact hletter (by decide)
  refine ⟨bearerMatch_cons hfirst, fun unit front rest => ?_⟩
  have hword := take_map_append_eq_iff (utf16Units "bearer") (unit :: front) rest hletter
  by_cases hsix : 6 ≤ (unit :: front).length
  · unfold bearerMatch
    rw [← List.cons_append, List.take_append_of_le_length hsix, List.drop_append_of_le_length hsix,
      bearerTail_bar hspace hbearer]
  · have hshort : ¬ ((unit :: front).take 6).map lowerUnit = utf16Units "bearer" :=
      fun h => hsix (length_le_of_take_map_eq (utf16Units "bearer") h)
    have hshort' : ¬ ((unit :: (front ++ bar :: rest)).take 6).map lowerUnit =
        utf16Units "bearer" := fun h => hshort (hword.1 h)
    unfold bearerMatch
    rw [if_neg hshort, if_neg hshort']

/-! ## Names of credentials -/

theorem credentialKey?_eq_some {text : List ℕ} {length : ℕ} (h : credentialKey? text = some length) :
    ∃ key ∈ credentialKeys, key.length = length ∧ (text.take length).map lowerUnit = key := by
  obtain ⟨key, hfound, rfl⟩ := Option.map_eq_some_iff.1 h
  have hword := List.find?_some hfound
  exact ⟨key, List.mem_of_find?_eq_some hfound, rfl, of_decide_eq_true hword⟩

theorem credentialKey?_le {text : List ℕ} {length : ℕ} (h : credentialKey? text = some length) :
    0 < length ∧ length ≤ text.length := by
  have hnonempty : ∀ key ∈ credentialKeys, 0 < key.length := by decide
  obtain ⟨key, hkey, rfl, hword⟩ := credentialKey?_eq_some h
  exact ⟨hnonempty key hkey, length_le_of_take_map_eq _ hword⟩

/-- A name ends before a unit that is in no name. -/
theorem credentialKey?_bar {bar : ℕ} (h : isKeyUnit bar = false) (front rest : List ℕ) :
    credentialKey? (front ++ bar :: rest) = credentialKey? front := by
  unfold credentialKey?
  congr 1
  refine List.find?_congr fun key hkey => ?_
  have hbar : lowerUnit bar ∉ key := by
    intro hmem
    rw [isKeyUnit_of_lowerUnit (isKeyUnit_of_mem hkey hmem)] at h
    cases h
  simp only [take_map_append_eq_iff key front rest hbar]

/-- No name is the beginning of another one. -/
theorem credentialKey?_key {key : List ℕ} (h : key.map lowerUnit ∈ credentialKeys) :
    credentialKey? key = some key.length := by
  have hapart : ∀ first ∈ credentialKeys, ∀ second ∈ credentialKeys, first <+: second →
      first = second := by decide
  cases hfound : credentialKey? key with
  | none =>
      have hnone := List.find?_eq_none.1 (Option.map_eq_none_iff.1 hfound) _ h
      rw [List.length_map, List.take_length] at hnone
      exact absurd (decide_eq_true rfl) hnone
  | some length =>
      obtain ⟨found, hmem, rfl, hword⟩ := credentialKey?_eq_some hfound
      have hsame : found = key.map lowerUnit := by
        refine hapart found hmem _ h ?_
        rw [← hword]
        exact (List.take_prefix _ _).map _
      rw [hsame, List.length_map]

theorem forall_isKeyUnit {key : List ℕ} (h : key.map lowerUnit ∈ credentialKeys) :
    ∀ unit ∈ key, isKeyUnit unit = true := fun _ hunit =>
  isKeyUnit_of_lowerUnit (isKeyUnit_of_mem h (List.mem_map_of_mem hunit))

/-! ## Credential pairs -/

theorem pairTail_le {text : List ℕ} {length : ℕ} (h : pairTail text = some length) :
    0 < length ∧ length ≤ text.length := by
  induction text generalizing length with
  | nil => cases h
  | cons unit text ih =>
      rw [pairTail] at h
      rw [List.length_cons]
      split at h
      · obtain ⟨inner, hinner, rfl⟩ := Option.map_eq_some_iff.1 h
        have := ih hinner
        omega
      · split at h
        · obtain ⟨inner, hinner, rfl⟩ := Option.map_eq_some_iff.1 h
          have := spacedRun_le hinner
          omega
        · cases h

theorem pairTail_bar {bar : ℕ} (hspace : isSpaceUnit bar = false) (hvalue : isValueUnit bar = false)
    (hseparator : isSeparatorUnit bar = false) (front rest : List ℕ) :
    pairTail (front ++ bar :: rest) = pairTail front := by
  induction front with
  | nil => simp [pairTail, hspace, hseparator]
  | cons unit front ih =>
      rw [List.cons_append, pairTail, pairTail, ih, spacedRun_bar hspace hvalue]

/-- A pair needs a separator. -/
theorem pairTail_of_no_separator {front rest : List ℕ} {unit : ℕ}
    (hfront : ∀ unit ∈ front, isSeparatorUnit unit = false) (hspace : isSpaceUnit unit = false)
    (hseparator : isSeparatorUnit unit = false) : pairTail (front ++ unit :: rest) = none := by
  induction front with
  | nil => simp [pairTail, hspace, hseparator]
  | cons first front ih =>
      obtain ⟨hfirst, hfront⟩ := List.forall_mem_cons.1 hfront
      simp [pairTail, ih hfront, hfirst]

/-- Behind a unit that is neither space nor separator, a space ends what can be a pair. -/
theorem pairTail_stop {front rest : List ℕ} {unit space length : ℕ}
    (hunit : isSpaceUnit unit = false) (hseparator : isSeparatorUnit unit = false)
    (hspace : isSpaceUnit space = true)
    (h : pairTail (front ++ unit :: space :: rest) = some length) : length ≤ front.length + 1 := by
  induction front generalizing length with
  | nil => simp [pairTail, hunit, hseparator] at h
  | cons first front ih =>
      rw [List.cons_append, pairTail] at h
      rw [List.length_cons]
      split at h
      · obtain ⟨inner, hinner, rfl⟩ := Option.map_eq_some_iff.1 h
        have := ih hinner
        omega
      · split at h
        · obtain ⟨inner, hinner, rfl⟩ := Option.map_eq_some_iff.1 h
          have := spacedRun_stop hunit hspace isSpaceUnit_of_isValueUnit hinner
          omega
        · cases h

/-- A pair that reaches into a run of values covers it. -/
theorem le_pairTail {run front rest : List ℕ} {length : ℕ}
    (hvalue : ∀ unit ∈ run, isValueUnit unit = true)
    (hseparator : ∀ unit ∈ run, isSeparatorUnit unit = false)
    (h : pairTail (front ++ (run ++ rest)) = some length) (hlength : front.length < length) :
    front.length + run.length ≤ length := by
  induction front generalizing length with
  | nil =>
      cases run with
      | nil => exact Nat.zero_le _
      | cons unit run =>
          have hspace := isSpaceUnit_of_isValueUnit unit (hvalue unit (List.mem_cons_self ..))
          simp [pairTail, hspace, hseparator unit (List.mem_cons_self ..)] at h
  | cons first front ih =>
      rw [List.cons_append, pairTail] at h
      rw [List.length_cons] at hlength ⊢
      split at h
      · obtain ⟨inner, hinner, rfl⟩ := Option.map_eq_some_iff.1 h
        have := ih hinner (by omega)
        omega
      · split at h
        · obtain ⟨inner, hinner, rfl⟩ := Option.map_eq_some_iff.1 h
          have := le_spacedRun hvalue isSpaceUnit_of_isValueUnit hinner (by omega)
          omega
        · cases h

/-- A value has no space, quote, comma or semicolon. -/
structure IsValue (length : ℕ) (value : List ℕ) : Prop where
  length_eq : value.length = length
  units : ∀ unit ∈ value, isValueUnit unit = true

/-- A value ends before the text. -/
def Delimited (after : List ℕ) : Prop := after.takeWhile isValueUnit = []

theorem delimited_nil : Delimited [] := rfl

/-- Values of one length are not told apart, once there has been a separator or where they have
none. -/
theorem pairTail_congr {front value value' after after' : List ℕ} {length : ℕ}
    (hvalue : IsValue length value) (hvalue' : IsValue length value') (hlength : 0 < length)
    (hafter : Delimited after) (hafter' : Delimited after')
    (h : (∃ unit ∈ front, isSeparatorUnit unit = true) ∨
      ∀ unit ∈ value ++ value', isSeparatorUnit unit = false) :
    pairTail (front ++ (value ++ after)) = pairTail (front ++ (value' ++ after')) := by
  have hne : value ≠ [] := by
    rintro rfl
    exact hlength.ne hvalue.length_eq
  have hne' : value' ≠ [] := by
    rintro rfl
    exact hlength.ne hvalue'.length_eq
  induction front with
  | nil =>
      obtain ⟨unit, hunit, -⟩ | hseparator := h
      · cases hunit
      · obtain ⟨first, value, rfl⟩ := List.exists_cons_of_ne_nil hne
        obtain ⟨first', value', rfl⟩ := List.exists_cons_of_ne_nil hne'
        have hspace := isSpaceUnit_of_isValueUnit first (hvalue.units first (List.mem_cons_self ..))
        have hspace' :=
          isSpaceUnit_of_isValueUnit first' (hvalue'.units first' (List.mem_cons_self ..))
        simp [pairTail, hspace, hspace', hseparator first (by simp), hseparator first' (by simp)]
  | cons first front ih =>
      rw [List.cons_append, List.cons_append, pairTail, pairTail]
      by_cases hspace : isSpaceUnit first = true
      · have hrest : (∃ unit ∈ front, isSeparatorUnit unit = true) ∨
            ∀ unit ∈ value ++ value', isSeparatorUnit unit = false := by
          refine h.imp_left fun ⟨unit, hunit, hseparator⟩ => ⟨unit, ?_, hseparator⟩
          refine (List.mem_cons.1 hunit).resolve_left ?_
          rintro rfl
          simp only [isSeparatorUnit, isSpaceUnit, decide_eq_true_eq] at hseparator hspace
          omega
        simp only [if_pos hspace, ih hrest]
      · rw [if_neg hspace, if_neg hspace,
          spacedRun_congr hvalue.units isSpaceUnit_of_isValueUnit hvalue'.units
            (hvalue.length_eq.trans hvalue'.length_eq.symm) hafter hafter' hne]

/-- A pair is told by its name and what follows it. -/
theorem credentialPair_append {front rest : List ℕ}
    (h : ∀ length, credentialKey? (front ++ rest) = some length → length ≤ front.length) :
    credentialPair (front ++ rest) = (credentialKey? (front ++ rest)).bind fun key =>
      (pairTail (front.drop key ++ rest)).map fun length =>
        (front.take key ++ utf16Units "=[REDACTED]", key + length - 1) := by
  unfold credentialPair
  refine Option.bind_congr fun key hkey => ?_
  rw [List.drop_append_of_le_length (h key hkey), List.take_append_of_le_length (h key hkey)]

theorem credentialPair_eq_some {text replacement : List ℕ} {more : ℕ}
    (h : credentialPair text = some (replacement, more)) : ∃ key length,
      credentialKey? text = some key ∧ pairTail (text.drop key) = some length ∧
      replacement = text.take key ++ utf16Units "=[REDACTED]" ∧ more = key + length - 1 := by
  obtain ⟨key, hkey, h⟩ := Option.bind_eq_some_iff.1 h
  obtain ⟨length, hlength, hfound⟩ := Option.map_eq_some_iff.1 h
  obtain ⟨rfl, rfl⟩ := Prod.mk.inj hfound
  exact ⟨key, length, hkey, hlength, rfl, rfl⟩

theorem credentialPair_bounded : credentialPair.Bounded := by
  intro text replacement more h
  obtain ⟨key, length, hkey, hlength, -, rfl⟩ := credentialPair_eq_some h
  have hle := credentialKey?_le hkey
  have htail := pairTail_le hlength
  rw [List.length_drop] at htail
  omega

/-- A pair begins with a unit of a name. -/
theorem credentialPair_cons {unit : ℕ} (h : isKeyUnit unit = false) (rest : List ℕ) :
    credentialPair (unit :: rest) = none := by
  have hnone : credentialKey? [] = none := by decide
  rw [credentialPair, ← List.nil_append (unit :: rest), credentialKey?_bar h, hnone]
  rfl

theorem credentialPair_bars {bar : ℕ} (hspace : isSpaceUnit bar = false)
    (hvalue : isValueUnit bar = false) (hseparator : isSeparatorUnit bar = false) :
    credentialPair.Bars bar := by
  have hkey : isKeyUnit bar = false := by
    cases h : isKeyUnit bar with
    | false => rfl
    | true =>
        rw [isValueUnit_of_isKeyUnit h] at hvalue
        cases hvalue
  refine ⟨credentialPair_cons hkey, fun unit front rest => ?_⟩
  rw [← List.cons_append, credentialPair_append fun length h => (credentialKey?_le
    ((credentialKey?_bar hkey _ _).symm.trans h)).2, credentialKey?_bar hkey]
  simp only [pairTail_bar hspace hvalue hseparator]
  rfl

/-- Values of one length are not told apart behind a separator, and where they hold neither names nor
separators. -/
theorem credentialPair_congr (front : List ℕ) {value value' after after' : List ℕ} {length : ℕ}
    (hvalue : IsValue length value) (hvalue' : IsValue length value') (hlength : 0 < length)
    (hafter : Delimited after) (hafter' : Delimited after')
    (h : (∃ unit ∈ front, isSeparatorUnit unit = true) ∨ ∀ unit ∈ value ++ value',
      isKeyUnit unit = false ∧ isSeparatorUnit unit = false) :
    credentialPair (front ++ (value ++ after)) = credentialPair (front ++ (value' ++ after')) := by
  -- a name ends before the bar, which is a separator of the front or the first unit of the value
  have hkeys : ∃ named, credentialKey? (front ++ (value ++ after)) = credentialKey? named ∧
      credentialKey? (front ++ (value' ++ after')) = credentialKey? named ∧
      named.length ≤ front.length ∧ ((∀ key ≤ named.length, ∃ unit ∈ front.drop key,
        isSeparatorUnit unit = true) ∨ ∀ unit ∈ value ++ value', isSeparatorUnit unit = false) := by
    obtain ⟨unit, hunit, hseparator⟩ | hplain := h
    · obtain ⟨named, rest, rfl⟩ := List.append_of_mem hunit
      have hkey : isKeyUnit unit = false := by
        cases hkey : isKeyUnit unit with
        | false => rfl
        | true =>
            rw [isSeparatorUnit_of_isKeyUnit hkey] at hseparator
            cases hseparator
      refine ⟨named, ?_, ?_, by simp, .inl fun key hle => ⟨unit, ?_, hseparator⟩⟩
      · rw [List.append_assoc, List.cons_append, credentialKey?_bar hkey]
      · rw [List.append_assoc, List.cons_append, credentialKey?_bar hkey]
      · rw [List.drop_append_of_le_length hle]
        simp
    · refine ⟨front, ?_, ?_, le_rfl, .inr fun unit hunit => (hplain unit hunit).2⟩
      · cases value with
        | nil => exact absurd hvalue.length_eq hlength.ne
        | cons unit value => exact credentialKey?_bar (hplain unit (by simp)).1 _ _
      · cases value' with
        | nil => exact absurd hvalue'.length_eq hlength.ne
        | cons unit value' => exact credentialKey?_bar (hplain unit (by simp)).1 _ _
  obtain ⟨named, hkey, hkey', hnamed, hbehind⟩ := hkeys
  have hle : ∀ length, credentialKey? named = some length → length ≤ front.length :=
    fun length h => (credentialKey?_le h).2.trans hnamed
  rw [credentialPair_append fun length h => hle length (hkey.symm.trans h),
    credentialPair_append fun length h => hle length (hkey'.symm.trans h), hkey, hkey']
  refine Option.bind_congr fun key hfound => ?_
  rw [pairTail_congr hvalue hvalue' hlength hafter hafter'
    (hbehind.imp_left fun h => h key (credentialKey?_le hfound).2)]

/-- A pair that reaches into a run of values, and whose name does not, covers it. -/
theorem le_credentialPair {front run rest replacement : List ℕ} {more key : ℕ}
    (hvalue : ∀ unit ∈ run, isValueUnit unit = true)
    (hseparator : ∀ unit ∈ run, isSeparatorUnit unit = false)
    (hkey : credentialKey? (front ++ (run ++ rest)) = some key) (hle : key ≤ front.length)
    (h : credentialPair (front ++ (run ++ rest)) = some (replacement, more))
    (hmore : front.length ≤ more) : front.length + run.length ≤ more + 1 := by
  obtain ⟨key', length, hkey', hlength, -, rfl⟩ := credentialPair_eq_some h
  obtain rfl := Option.some.inj (hkey.symm.trans hkey')
  rw [List.drop_append_of_le_length hle] at hlength
  have hpositive := (pairTail_le hlength).1
  have hcovers := le_pairTail hvalue hseparator hlength
  rw [List.length_drop] at hcovers
  omega

/-- Behind the last letter of the other word, a space ends what can be a pair. -/
theorem credentialPair_stop {front rest replacement : List ℕ} {unit space more : ℕ}
    (hunit : lowerUnit unit = 114) (hspace : isSpaceUnit space = true)
    (h : credentialPair (front ++ unit :: space :: rest) = some (replacement, more)) :
    more ≤ front.length := by
  have hletter : isKeyUnit unit = true := isKeyUnit_of_lowerUnit (by rw [hunit]; decide)
  have hnone := isKeyUnit_of_isSpaceUnit hspace
  obtain ⟨key, length, hkey, hlength, -, rfl⟩ := credentialPair_eq_some h
  rw [show front ++ unit :: space :: rest = (front ++ [unit]) ++ space :: rest by simp,
    credentialKey?_bar hnone] at hkey
  -- no name ends in this letter
  have hlast : ∀ key ∈ credentialKeys, key.getLast? ≠ some 114 := by decide
  have hle : key ≤ front.length := by
    have hle := (credentialKey?_le hkey).2
    rw [List.length_append, List.length_singleton] at hle
    by_contra hlong
    obtain ⟨word, hword, -, heq⟩ := credentialKey?_eq_some hkey
    rw [show key = (front ++ [unit]).length by simp; omega, List.take_length, List.map_append] at heq
    refine hlast word hword ?_
    rw [← heq]
    simp [hunit]
  rw [List.drop_append_of_le_length hle] at hlength
  have hstop := pairTail_stop (isSpaceUnit_of_isValueUnit _ (isValueUnit_of_isKeyUnit hletter))
    (isSeparatorUnit_of_isKeyUnit hletter) hspace hlength
  rw [List.length_drop] at hstop
  omega

/-- A text that goes on behind that letter with a space and no pair is not open. -/
theorem overlap_credentialPair_of_stop {front tail : List ℕ} (rest : List ℕ) {unit space : ℕ}
    (hunit : lowerUnit unit = 114) (hspace : isSpaceUnit space = true)
    (htail : ∀ item after, item :: after <:+ space :: tail →
      credentialPair (item :: (after ++ rest)) = none) :
    credentialPair.overlap (front ++ unit :: space :: tail) rest = 0 := by
  by_contra hne
  obtain ⟨-, item, after, replacement, more, hsuffix, hfound, hcovered, -⟩ :=
    MatchPattern.exists_of_overlap (Nat.pos_of_ne_zero hne)
  have hmore : after.length < more := by omega
  rw [show front ++ unit :: space :: tail = (front ++ [unit]) ++ space :: tail by simp] at hsuffix
  obtain hlater | hearlier := List.suffix_or_suffix_of_suffix hsuffix
    (List.suffix_append (front ++ [unit]) (space :: tail))
  · rw [htail item after hlater] at hfound
    cases hfound
  · obtain ⟨start, hstart⟩ := hearlier
    rw [← hstart, List.suffix_append_self_iff] at hsuffix
    cases start using List.reverseRecOn with
    | nil =>
        rw [htail item after (by rw [← hstart]; exact List.suffix_refl _)] at hfound
        cases hfound
    | append_singleton start last =>
        obtain ⟨before, hbefore⟩ := hsuffix
        rw [← List.append_assoc] at hbefore
        obtain ⟨-, hlast⟩ := List.append_inj' hbefore rfl
        obtain rfl := (List.cons.inj hlast).1
        have htext : item :: (after ++ rest) = start ++ last :: space :: (tail ++ rest) := by
          rw [← List.cons_append, ← hstart]
          simp
        rw [htext] at hfound
        have hstop := credentialPair_stop hunit hspace hfound
        have hlengths := congrArg List.length hstart
        simp only [List.length_append, List.length_cons, List.length_nil] at hlengths
        omega

/-- What stands for a token holds no name, and neither do spaces and separators behind it. -/
theorem credentialPair_redacted (gap : List ℕ) (hgap : ∀ unit ∈ gap, isKeyUnit unit = false)
    (rest : List ℕ) : ∀ item after, item :: after <:+ utf16Units " [REDACTED]" ++ gap →
      credentialPair (item :: (after ++ rest)) = none := by
  have hwords : ∀ word ∈ (utf16Units " [REDACTED").tails, credentialKey? word = none := by decide
  have hbar : isKeyUnit 93 = false := by decide
  have hsplit : utf16Units " [REDACTED]" ++ gap = utf16Units " [REDACTED" ++ 93 :: gap := by
    rw [show utf16Units " [REDACTED]" = utf16Units " [REDACTED" ++ [93] by decide,
      List.append_assoc, List.singleton_append]
  intro item after hsuffix
  rw [hsplit] at hsuffix
  obtain hlater | ⟨word, hword⟩ := List.suffix_or_suffix_of_suffix hsuffix
    (List.suffix_append (utf16Units " [REDACTED") (93 :: gap))
  · obtain heq | hlater := List.suffix_cons_iff.1 hlater
    · rw [(List.cons.inj heq).1]
      exact credentialPair_cons hbar _
    · exact credentialPair_cons (hgap item (hlater.mem (List.mem_cons_self ..))) _
  · rw [← hword, List.suffix_append_self_iff] at hsuffix
    rw [← List.cons_append, ← hword, List.append_assoc, List.cons_append, credentialPair,
      credentialKey?_bar hbar, hwords word ((List.mem_tails _ _).2 hsuffix)]
    rfl

/-! ## Texts that are open to a value -/

/-- A text ends in front of a word: its last unit is no letter. -/
def EndsWord (text : List ℕ) : Prop := ∃ front last, text = front ++ [last] ∧
  isLetterUnit last = false

/-- With the tokens of a text redacted, one of its pairs goes on over what follows, here marks. -/
def OpenPair (text : List ℕ) (length : ℕ) : Prop :=
  0 < credentialPair.overlap (bearerMatch.replaceAll text) (List.replicate length 33)

instance (text : List ℕ) (length : ℕ) : Decidable (OpenPair text length) :=
  inferInstanceAs (Decidable (_ < _))

theorem bearerMatch_bars_mark : bearerMatch.Bars 33 :=
  bearerMatch_bars (by decide) (by decide)

/-- Where a token is read on over the end of a text, it is a word with spaces, or with a token that
is open. -/
theorem bearerMatch_open {unit : ℕ} {front rest : List ℕ} (hends : EndsWord (unit :: front))
    (hne : bearerMatch (unit :: (front ++ rest)) ≠ bearerMatch (unit :: front)) :
    ((unit :: front).take 6).map lowerUnit = utf16Units "bearer" ∧
      ((unit :: front).drop 6 ≠ [] ∧ (∀ space ∈ (unit :: front).drop 6, isSpaceUnit space = true) ∨
        bearerMatch (unit :: front) =
          some ((unit :: front).take 6 ++ utf16Units " [REDACTED]", front.length)) := by
  obtain ⟨start, last, htext, hlast⟩ := hends
  have hletters : ∀ text : List ℕ, (text.take 6).map lowerUnit = utf16Units "bearer" →
      last ∉ text.take 6 := by
    intro text hword hmem
    have hletter := isLetterUnit_of_lowerUnit (hword ▸ List.mem_map_of_mem hmem : lowerUnit last ∈ _)
    rw [hletter] at hlast
    cases hlast
  have hsix : 6 ≤ (unit :: front).length := by
    by_contra hshort
    have hmem : last ∈ unit :: front := htext ▸ (by simp)
    refine hne ?_
    unfold bearerMatch
    rw [if_neg fun hword => hletters _ hword ?_, if_neg fun hword => hletters _ hword ?_]
    · rwa [List.take_of_length_le (by omega)]
    · rw [← List.cons_append, List.take_append]
      exact List.mem_append_left _ (by rwa [List.take_of_length_le (by omega)])
  unfold bearerMatch at hne ⊢
  rw [← List.cons_append, List.take_append_of_le_length hsix, List.drop_append_of_le_length hsix]
    at hne
  have hword : ((unit :: front).take 6).map lowerUnit = utf16Units "bearer" := by
    by_contra hword
    rw [if_neg hword, if_neg hword] at hne
    exact hne rfl
  rw [if_pos hword] at hne ⊢
  rw [if_pos hword] at hne
  refine ⟨hword, ?_⟩
  have hlength : ((unit :: front).drop 6).length = front.length - 5 := by
    rw [List.length_drop, List.length_cons]
    omega
  have hnotLast := hletters _ hword
  have hsplit := List.take_append_drop 6 (unit :: front)
  cases hbehind : (unit :: front).drop 6 with
  | nil =>
      rw [hbehind, List.append_nil] at hsplit
      rw [hsplit, htext] at hnotLast
      exact absurd (by simp) hnotLast
  | cons space behind =>
      rw [hbehind, List.cons_append, bearerTail, bearerTail] at hne
      cases hspace : isSpaceUnit space with
      | false => simp [hspace] at hne
      | true =>
          rw [if_pos hspace, if_pos hspace] at hne
          obtain (heq : spacedRun isSpaceUnit isBearerUnit _ = _) | hspaces | hopen :=
            spacedRun_append behind rest
          · rw [heq] at hne
            exact absurd rfl hne
          · exact .inl ⟨List.cons_ne_nil _ _, List.forall_mem_cons.2 ⟨hspace, hspaces⟩⟩
          · refine .inr ?_
            rw [hbehind, List.length_cons] at hlength
            rw [bearerTail, if_pos hspace, hopen]
            simp only [Option.map_some, Option.some.injEq, Prod.mk.injEq, true_and]
            rw [List.length_cons] at hsix
            omega

theorem OpenPair.length_ne {text : List ℕ} {length : ℕ} (h : OpenPair text length) : length ≠ 0 := by
  rintro rfl
  obtain ⟨-, item, tail, replacement, more, -, hfound, hcovered, -⟩ :=
    MatchPattern.exists_of_overlap h
  have hbound := credentialPair_bounded _ _ _ hfound
  unfold OpenPair at h
  simp only [List.replicate_zero, List.append_nil, List.length_cons] at hbound h hcovered
  omega

theorem EndsWord.suffix {text : List ℕ} (h : EndsWord text) {unit : ℕ} {tail : List ℕ}
    (hsuffix : unit :: tail <:+ text) : EndsWord (unit :: tail) := by
  obtain ⟨front, last, rfl, hlast⟩ := h
  obtain ⟨start, hstart⟩ := List.suffix_of_suffix_length_le (List.suffix_append front [last]) hsuffix
    (by simp)
  exact ⟨start, last, hstart.symm, hlast⟩

/-- A word without a token behind it is left as it is. -/
theorem replaceAll_bearerMatch_word {word gap : List ℕ} (rest : List ℕ)
    (hword : word.map lowerUnit = utf16Units "bearer") (hgap : ∀ unit ∈ gap, lowerUnit unit ≠ 98)
    (hnone : bearerTail (gap ++ rest) = none) :
    bearerMatch.replaceAll (word ++ gap ++ rest) = word ++ gap ++ bearerMatch.replaceAll rest := by
  refine MatchPattern.replaceAll_append_of_none rest fun item tail hsuffix => ?_
  have hletters : utf16Units "bearer" = 98 :: utf16Units "earer" := by decide
  obtain ⟨first, letters, rfl, -, hrest⟩ := List.map_eq_cons_iff.1 (hword.trans hletters)
  obtain heq | hlater := List.suffix_cons_iff.1 hsuffix
  · obtain ⟨rfl, rfl⟩ : item = first ∧ tail = letters ++ gap := List.cons.inj heq
    have hlength := congrArg List.length hrest
    rw [List.length_map, show (utf16Units "earer").length = 5 by decide] at hlength
    unfold bearerMatch
    rw [List.append_assoc, List.drop_succ_cons, ← hlength, List.drop_left, hnone]
    split <;> rfl
  · refine bearerMatch_cons ?_ _
    obtain hitem | hitem := List.mem_append.1 (hlater.mem (List.mem_cons_self ..))
    · intro heq
      have hmem := List.mem_map_of_mem (f := lowerUnit) hitem
      rw [hrest, heq] at hmem
      exact absurd hmem (by decide)
    · exact hgap item hitem

/-- The word Bearer with spaces behind it is not open. -/
theorem overlap_credentialPair_word {word gap : List ℕ} (front rest : List ℕ)
    (hword : word.map lowerUnit = utf16Units "bearer") (hne : gap ≠ [])
    (hgap : ∀ unit ∈ gap, isSpaceUnit unit = true) :
    credentialPair.overlap (front ++ (word ++ gap)) rest = 0 := by
  obtain ⟨letters, last, rfl, hlast⟩ := exists_last_of_word hword
  obtain ⟨space, gap, rfl⟩ := List.exists_cons_of_ne_nil hne
  rw [show front ++ ((letters ++ [last]) ++ space :: gap) = (front ++ letters) ++ last :: space :: gap
    by simp]
  refine overlap_credentialPair_of_stop rest hlast (hgap space (List.mem_cons_self ..)) ?_
  intro item after hsuffix
  exact credentialPair_cons
    (isKeyUnit_of_isSpaceUnit (hgap item (hsuffix.mem (List.mem_cons_self ..)))) _

/-- Neither is the word with a redacted token, and with spaces and separators behind it. -/
theorem overlap_credentialPair_redacted {word : List ℕ} (front gap rest : List ℕ)
    (hword : word.map lowerUnit = utf16Units "bearer") (hgap : ∀ unit ∈ gap, isKeyUnit unit = false) :
    credentialPair.overlap (front ++ (word ++ utf16Units " [REDACTED]" ++ gap)) rest = 0 := by
  obtain ⟨letters, last, rfl, hlast⟩ := exists_last_of_word hword
  have hredacted : utf16Units " [REDACTED]" = 32 :: utf16Units "[REDACTED]" := by decide
  rw [show front ++ ((letters ++ [last]) ++ utf16Units " [REDACTED]" ++ gap) =
    (front ++ letters) ++ last :: 32 :: (utf16Units "[REDACTED]" ++ gap) by simp [hredacted]]
  refine overlap_credentialPair_of_stop rest hlast (by decide) ?_
  rw [← List.cons_append, ← hredacted]
  exact credentialPair_redacted gap hgap rest

/-- Behind a text that is open to a value, no token goes on. -/
theorem scan_bearerMatch_of_openPair {text : List ℕ} {length : ℕ} (hends : EndsWord text)
    (hopen : OpenPair text length) (rest : List ℕ) :
    bearerMatch.scan rest 0 text = (bearerMatch.replaceAll text, 0) := by
  obtain ⟨length, rfl⟩ := Nat.exists_eq_succ_of_ne_zero hopen.length_ne
  have hmarks := MatchPattern.scan_bar bearerMatch_bounded bearerMatch_bars_mark
    (List.replicate length 33) (Nat.zero_le text.length)
  obtain heq | ⟨written, unit, tail, hsuffix, hne, -, hwritten⟩ :=
    MatchPattern.scan_eq_or_exists (p := bearerMatch) text rest (33 :: List.replicate length 33)
  · rw [heq, hmarks]
    rfl
  · rw [bearerMatch_bars_mark.2] at hne
    rw [hmarks, MatchPattern.scan_bar bearerMatch_bounded bearerMatch_bars_mark _ (Nat.zero_le _)]
      at hwritten
    have hreplaced : bearerMatch.replaceAll text =
        written ++ bearerMatch.replaceAll (unit :: tail) := hwritten
    obtain ⟨hword, ⟨hbehind, hspaces⟩ | hfound⟩ := bearerMatch_open (hends.suffix hsuffix) hne
    · have hkept := replaceAll_bearerMatch_word [] hword
        (fun space hspace => lowerUnit_ne_of_isSpaceUnit (hspaces space hspace))
        (bearerTail_of_spaces (by rwa [List.append_nil]))
      rw [List.append_nil, List.take_append_drop] at hkept
      rw [OpenPair, hreplaced, hkept, show bearerMatch.replaceAll [] = [] from rfl, List.append_nil,
        ← List.take_append_drop 6 (unit :: tail), overlap_credentialPair_word _ _ hword hbehind hspaces]
        at hopen
      exact absurd hopen (lt_irrefl 0)
    · have hredacted : bearerMatch.replaceAll (unit :: tail) =
          (unit :: tail).take 6 ++ utf16Units " [REDACTED]" := by
        rw [MatchPattern.replaceAll_cons_of_some hfound, List.drop_length]
        exact List.append_nil _
      have hnone := overlap_credentialPair_redacted written [] (List.replicate (length + 1) 33)
        hword (by simp)
      rw [List.append_nil] at hnone
      rw [OpenPair, hreplaced, hredacted, hnone] at hopen
      exact absurd hopen (lt_irrefl 0)

/-! ## Mail addresses -/

theorem lastLabel_le {text : List ℕ} {length : ℕ} (h : lastLabel text = some length) :
    length ≤ text.length := by
  induction text generalizing length with
  | nil => cases h
  | cons unit text ih =>
      have hletters := (List.takeWhile_prefix isLetterUnit (l := text)).length_le
      rw [lastLabel] at h
      rw [List.length_cons]
      split at h
      · next inner hinner =>
          have := ih hinner
          cases h
          omega
      · simp only at h
        split at h
        · cases h
          omega
        · cases h

theorem mailTail_lt {text : List ℕ} {length : ℕ} (h : mailTail text = some length) :
    length < text.length := by
  cases text with
  | nil => cases h
  | cons unit text =>
      have hdomain := (List.takeWhile_prefix isDomainUnit (l := text)).length_le
      rw [mailTail] at h
      split at h
      · cases hrun : text.takeWhile isDomainUnit with
        | nil =>
            rw [hrun] at h
            cases h
        | cons first rest =>
            rw [hrun] at h hdomain
            obtain ⟨inner, hinner, rfl⟩ := Option.map_eq_some_iff.1 h
            have := lastLabel_le hinner
            rw [List.length_cons] at hdomain ⊢
            omega
      · cases h

theorem emailAddress_eq_some {text replacement : List ℕ} {more : ℕ}
    (h : emailAddress text = some (replacement, more)) :
    replacement = utf16Units "[REDACTED-EMAIL]" ∧ more < text.length := by
  unfold emailAddress at h
  simp only at h
  split at h
  · cases h
  · obtain ⟨length, hlength, hfound⟩ := Option.map_eq_some_iff.1 h
    obtain ⟨rfl, rfl⟩ := Prod.mk.inj hfound
    have := mailTail_lt hlength
    rw [List.length_drop] at this
    exact ⟨rfl, by omega⟩

theorem emailAddress_bounded : emailAddress.Bounded :=
  fun _ _ _ h => (emailAddress_eq_some h).2

theorem mailTail_bar {bar : ℕ} (hdomain : isDomainUnit bar = false) (hat : bar ≠ 64)
    (front rest : List ℕ) : mailTail (front ++ bar :: rest) = mailTail front := by
  cases front with
  | nil => exact if_neg hat
  | cons unit front => rw [List.cons_append, mailTail, mailTail, takeWhile_bar hdomain]

theorem emailAddress_bars {bar : ℕ} (hlocal : isLocalUnit bar = false)
    (hdomain : isDomainUnit bar = false) (hat : bar ≠ 64) : emailAddress.Bars bar := by
  refine ⟨fun rest => ?_, fun unit front rest => ?_⟩
  · unfold emailAddress
    rw [List.takeWhile_cons_of_neg (by simp [hlocal])]
    rfl
  · have hlength := (List.takeWhile_prefix isLocalUnit (l := unit :: front)).length_le
    unfold emailAddress
    rw [← List.cons_append, takeWhile_bar hlocal]
    simp only [List.drop_append_of_le_length hlength, mailTail_bar hdomain hat]

/-! ## When a value is hidden -/

theorem isValueUnit_of_delimited {unit : ℕ} {after : List ℕ} (h : Delimited (unit :: after)) :
    isValueUnit unit = false := by
  cases hunit : isValueUnit unit with
  | false => rfl
  | true =>
      rw [Delimited, List.takeWhile_cons_of_pos hunit] at h
      cases h

theorem delimited_cons {unit : ℕ} (h : isValueUnit unit = false) (after : List ℕ) :
    Delimited (unit :: after) := List.takeWhile_cons_of_neg (by simp [h])

theorem isValueUnit_of_lowerUnit {unit : ℕ} (h : isKeyUnit (lowerUnit unit) = true) :
    isValueUnit unit = true := isValueUnit_of_isKeyUnit (isKeyUnit_of_lowerUnit h)

theorem Delimited.replaceAll_bearerMatch {after : List ℕ} (h : Delimited after) :
    Delimited (bearerMatch.replaceAll after) := by
  cases after with
  | nil => exact h
  | cons unit after =>
      have hunit := isValueUnit_of_delimited h
      have hne : lowerUnit unit ≠ 98 := by
        intro heq
        rw [isValueUnit_of_lowerUnit (by rw [heq]; decide)] at hunit
        cases hunit
      rw [MatchPattern.replaceAll_cons_of_none (bearerMatch_cons hne after)]
      exact delimited_cons hunit _

/-- A token that begins in a value is the word at its end, with a token behind it. -/
theorem replaceAll_bearerMatch_value {length : ℕ} {value after : List ℕ}
    (hvalue : IsValue length value) (hafter : Delimited after)
    (h : length < 6 ∨ bearerTail after = none) :
    bearerMatch.replaceAll (value ++ after) = value ++ bearerMatch.replaceAll after := by
  refine MatchPattern.replaceAll_append_of_none after fun item tail hsuffix => ?_
  unfold bearerMatch
  split
  · next hword =>
      have hlength := hsuffix.length_le
      rw [hvalue.length_eq] at hlength
      rw [← List.cons_append] at hword ⊢
      have hbehind : bearerTail ((item :: tail ++ after).drop 6) = none := by
        obtain hshort | hsix | hlong := lt_trichotomy (item :: tail).length 6
        · have hbound := length_le_of_take_map_eq (utf16Units "bearer") hword
          rw [show (utf16Units "bearer").length = 6 by decide, List.length_append] at hbound
          cases after with
          | nil =>
              rw [List.length_nil] at hbound
              omega
          | cons unit after =>
              have hunit := isValueUnit_of_delimited hafter
              have hmem : unit ∈ (item :: tail ++ unit :: after).take 6 := by
                rw [List.take_append, show 6 - (item :: tail).length =
                  6 - (item :: tail).length - 1 + 1 by omega, List.take_succ_cons]
                exact List.mem_append_right _ (List.mem_cons_self ..)
              have hletter := isLetterUnit_of_lowerUnit (hword ▸ List.mem_map_of_mem hmem)
              rw [isValueUnit_of_isKeyUnit (by simp [isKeyUnit, hletter])] at hunit
              cases hunit
        · rw [← hsix, List.drop_left]
          exact h.resolve_left (by omega)
        · rw [List.drop_append_of_le_length hlong.le]
          cases hdrop : (item :: tail).drop 6 with
          | nil =>
              rw [List.drop_eq_nil_iff] at hdrop
              omega
          | cons unit behind =>
              have hmem : unit ∈ value :=
                hsuffix.mem (List.mem_of_mem_drop (hdrop ▸ List.mem_cons_self ..))
              rw [List.cons_append, bearerTail,
                isSpaceUnit_of_isValueUnit unit (hvalue.units unit hmem)]
              rfl
      rw [hbehind]
      rfl
  · rfl

theorem replaceAll_bearerMatch_marks {mark : ℕ} (h : ∀ rest, bearerMatch (mark :: rest) = none)
    (count : ℕ) (rest : List ℕ) : bearerMatch.replaceAll (List.replicate count mark ++ rest) =
      List.replicate count mark ++ bearerMatch.replaceAll rest := by
  refine MatchPattern.replaceAll_append_of_none rest fun item tail hsuffix => ?_
  rw [List.eq_of_mem_replicate (hsuffix.mem (List.mem_cons_self ..))]
  exact h _

theorem exists_separator (front : List ℕ) {rest replacement : List ℕ} {more : ℕ}
    (h : credentialPair (front ++ 33 :: rest) = some (replacement, more)) :
    ∃ unit ∈ front, isSeparatorUnit unit = true := by
  by_contra hnone
  have hkey := credentialKey?_bar (show isKeyUnit 33 = false by decide) front rest
  obtain ⟨key, length, hfound, hlength, -⟩ := credentialPair_eq_some h
  rw [hkey] at hfound
  rw [List.drop_append_of_le_length (credentialKey?_le hfound).2,
    pairTail_of_no_separator (fun unit hunit => ?_) (by decide) (by decide)] at hlength
  · cases hlength
  · cases hunit' : isSeparatorUnit unit with
    | false => rfl
    | true => exact absurd ⟨unit, List.mem_of_mem_drop hunit, hunit'⟩ hnone

theorem isValue_replicate {unit : ℕ} (h : isValueUnit unit = true) (length : ℕ) :
    IsValue length (List.replicate length unit) :=
  ⟨List.length_replicate, fun _ hmem => List.eq_of_mem_replicate hmem ▸ h⟩

/-- The marks are all covered. -/
theorem OpenPair.overlap_eq {text : List ℕ} {length : ℕ} (h : OpenPair text length) :
    credentialPair.overlap (bearerMatch.replaceAll text) (List.replicate length 33) = length := by
  obtain ⟨-, item, tail, replacement, more, -, hfound, hcovered, -⟩ :=
    MatchPattern.exists_of_overlap h
  have hbound := credentialPair_bounded _ _ _ hfound
  obtain ⟨length, rfl⟩ := Nat.exists_eq_succ_of_ne_zero h.length_ne
  have hkey : credentialKey? (item :: tail ++ (List.replicate (length + 1) 33 ++ [])) =
      credentialKey? (item :: tail) := credentialKey?_bar (by decide) _ _
  obtain ⟨key, -, hname, -⟩ := credentialPair_eq_some hfound
  have hmarks := isValue_replicate (show isValueUnit 33 = true by decide) (length + 1)
  rw [← List.append_nil (List.replicate (length + 1) 33), ← List.cons_append, hkey] at hname
  rw [← List.append_nil (List.replicate (length + 1) 33), ← List.cons_append] at hfound
  have hcovers := le_credentialPair hmarks.units
    (fun unit hunit => List.eq_of_mem_replicate hunit ▸ by decide) (hkey.trans hname)
    (credentialKey?_le hname).2 hfound
  unfold OpenPair at h
  simp only [List.length_cons, List.length_append, List.length_replicate] at hbound hcovers
  omega

/-- A pair that is open covers each value alike. -/
theorem OpenPair.replaceAll_credentialPair {text value after : List ℕ} {length : ℕ}
    (h : OpenPair text length) (hvalue : IsValue length value) (hafter : Delimited after) :
    credentialPair.replaceAll (bearerMatch.replaceAll text ++ (value ++ after)) =
      (credentialPair.scan (List.replicate length 33) 0 (bearerMatch.replaceAll text)).1 ++
        credentialPair.replaceAll after := by
  have hlength := Nat.pos_of_ne_zero h.length_ne
  have hmarks := isValue_replicate (show isValueUnit 33 = true by decide) length
  have hscan : credentialPair.scan (value ++ after) 0 (bearerMatch.replaceAll text) =
      credentialPair.scan (List.replicate length 33) 0 (bearerMatch.replaceAll text) := by
    refine MatchPattern.scan_eq_of_overlap (fun text => ∃ unit ∈ text, isSeparatorUnit unit = true)
      (fun tail text hsuffix ⟨unit, hunit, hseparator⟩ => ⟨unit, hsuffix.mem hunit, hseparator⟩)
      (fun item tail replacement more hfound _ => ?_) (fun item tail hseparator => ?_) h
    · obtain ⟨length, rfl⟩ := Nat.exists_eq_succ_of_ne_zero hlength.ne'
      exact exists_separator (item :: tail) hfound
    · have hcongr := credentialPair_congr (item :: tail) hmarks hvalue hlength delimited_nil hafter
        (.inl hseparator)
      rwa [List.append_nil] at hcongr
  have hoverlap := h.overlap_eq
  rw [MatchPattern.replaceAll_append, MatchPattern.overlap, hscan]
  rw [MatchPattern.overlap] at hoverlap
  rw [hoverlap, ← hvalue.length_eq, List.drop_left]

/-- What becomes of a text with a value that is hidden does not tell the value. -/
theorem redactUpstreamError_of_openPair {text value after : List ℕ} {length : ℕ}
    (hends : EndsWord text) (h : OpenPair text length) (hvalue : IsValue length value)
    (hafter : Delimited after)
    (htokens : bearerMatch.replaceAll (value ++ after) = value ++ bearerMatch.replaceAll after) :
    redactUpstreamError (text ++ (value ++ after)) =
      emailAddress.replaceAll
        ((credentialPair.scan (List.replicate length 33) 0 (bearerMatch.replaceAll text)).1 ++
          credentialPair.replaceAll (bearerMatch.replaceAll after)) := by
  have hscan := scan_bearerMatch_of_openPair hends h (value ++ after)
  have hoverlap : bearerMatch.overlap text (value ++ after) = 0 := congrArg Prod.snd hscan
  rw [redactUpstreamError, MatchPattern.replaceAll_append_of_overlap hoverlap, hscan, htokens,
    h.replaceAll_credentialPair hvalue hafter.replaceAll_bearerMatch]

/-! ## Values that show -/

/-- Marks are in no token, name, separator or address. -/
structure IsMark (unit : ℕ) : Prop where
  value : isValueUnit unit = true
  bearer : isBearerUnit unit = false
  key : isKeyUnit unit = false
  separator : isSeparatorUnit unit = false
  localUnit : isLocalUnit unit = false
  domain : isDomainUnit unit = false
  at_ne : unit ≠ 64

/-- Where no pair is open, marks stay. -/
theorem redactUpstreamError_marks {text after : List ℕ} {length mark : ℕ} (hlength : 0 < length)
    (hopen : ¬ OpenPair text length) (hafter : Delimited after) (hmark : IsMark mark) :
    ∃ behind, redactUpstreamError (text ++ (List.replicate length mark ++ after)) =
      emailAddress.replaceAll (credentialPair.scan (List.replicate length 33) 0
        (bearerMatch.replaceAll text)).1 ++ mark :: behind := by
  obtain ⟨length, rfl⟩ := Nat.exists_eq_succ_of_ne_zero hlength.ne'
  have hspace := isSpaceUnit_of_isValueUnit mark hmark.value
  have hvalue := isValue_replicate hmark.value (length + 1)
  have hmarks := isValue_replicate (show isValueUnit 33 = true by decide) (length + 1)
  have hbars := bearerMatch_bars hspace hmark.bearer
  have htokens : bearerMatch.replaceAll (text ++ (List.replicate (length + 1) mark ++ after)) =
      bearerMatch.replaceAll text ++
        (List.replicate (length + 1) mark ++ bearerMatch.replaceAll after) := by
    rw [List.replicate_succ, List.cons_append, MatchPattern.replaceAll_bar bearerMatch_bounded
      hbars, replaceAll_bearerMatch_marks hbars.1]
    rfl
  have hscan : credentialPair.scan
      (List.replicate (length + 1) mark ++ bearerMatch.replaceAll after) 0
      (bearerMatch.replaceAll text) = credentialPair.scan (List.replicate (length + 1) 33) 0
      (bearerMatch.replaceAll text) := by
    refine MatchPattern.scan_congr 0 fun item tail => ?_
    have hcongr := credentialPair_congr (item :: tail) hvalue hmarks hlength
      hafter.replaceAll_bearerMatch delimited_nil (.inr fun unit hunit => ?_)
    · rwa [List.append_nil] at hcongr
    · obtain hunit | hunit := List.mem_append.1 hunit
      · rw [List.eq_of_mem_replicate hunit]
        exact ⟨hmark.key, hmark.separator⟩
      · rw [List.eq_of_mem_replicate hunit]
        decide
  have hoverlap : credentialPair.overlap (bearerMatch.replaceAll text)
      (List.replicate (length + 1) mark ++ bearerMatch.replaceAll after) = 0 := by
    rw [MatchPattern.overlap, hscan]
    exact Nat.eq_zero_of_not_pos hopen
  have hpairs : credentialPair.replaceAll
      (List.replicate (length + 1) mark ++ bearerMatch.replaceAll after) =
      mark :: credentialPair.replaceAll
        (List.replicate length mark ++ bearerMatch.replaceAll after) :=
    MatchPattern.replaceAll_cons_of_none (credentialPair_cons hmark.key _)
  rw [redactUpstreamError, htokens, MatchPattern.replaceAll_append_of_overlap hoverlap, hscan,
    hpairs, MatchPattern.replaceAll_bar emailAddress_bounded
      (emailAddress_bars hmark.localUnit hmark.domain hmark.at_ne)]
  exact ⟨_, rfl⟩

/-- The first unit of a text stays the first one under the passes for tokens and pairs. -/
theorem replaceAll_bearerMatch_cons (unit : ℕ) (rest : List ℕ) :
    ∃ behind, bearerMatch.replaceAll (unit :: rest) = unit :: behind := by
  cases hfound : bearerMatch (unit :: rest) with
  | none => exact ⟨_, MatchPattern.replaceAll_cons_of_none hfound⟩
  | some found =>
      obtain ⟨length, -, -, hreplacement, -⟩ := bearerMatch_eq_some hfound
      rw [MatchPattern.replaceAll_cons_of_some hfound, hreplacement, List.take_succ_cons]
      exact ⟨_, rfl⟩

theorem replaceAll_credentialPair_cons (unit : ℕ) (rest : List ℕ) :
    ∃ behind, credentialPair.replaceAll (unit :: rest) = unit :: behind := by
  cases hfound : credentialPair (unit :: rest) with
  | none => exact ⟨_, MatchPattern.replaceAll_cons_of_none hfound⟩
  | some found =>
      obtain ⟨key, length, hkey, -, hreplacement, -⟩ := credentialPair_eq_some hfound
      obtain ⟨key, rfl⟩ := Nat.exists_eq_succ_of_ne_zero (credentialKey?_le hkey).1.ne'
      rw [MatchPattern.replaceAll_cons_of_some hfound, hreplacement, List.take_succ_cons]
      exact ⟨_, rfl⟩

/-- Under the pass for addresses it stays, or an address is redacted. -/
theorem replaceAll_emailAddress_cons (unit : ℕ) (rest : List ℕ) :
    ∃ behind, emailAddress.replaceAll (unit :: rest) = unit :: behind ∨
      emailAddress.replaceAll (unit :: rest) = utf16Units "[REDACTED-EMAIL]" ++ behind := by
  cases hfound : emailAddress (unit :: rest) with
  | none => exact ⟨_, .inl (MatchPattern.replaceAll_cons_of_none hfound)⟩
  | some found =>
      have hreplaced := MatchPattern.replaceAll_cons_of_some hfound
      rw [(emailAddress_eq_some hfound).1] at hreplaced
      exact ⟨_, .inr hreplaced⟩

theorem emailAddress_bars_space {space : ℕ} (h : isSpaceUnit space = true) :
    emailAddress.Bars space := by
  have hlocals : utf16Units "._%+-" = [46, 95, 37, 43, 45] := by decide
  have hdomains : utf16Units ".-" = [46, 45] := by decide
  simp only [isSpaceUnit, decide_eq_true_eq] at h
  refine emailAddress_bars ?_ ?_ (by omega)
  · simp only [isLocalUnit, isLetterUnit, isDigitUnit, hlocals, Bool.or_eq_false_iff,
      decide_eq_false_iff_not, List.mem_cons, List.not_mem_nil, or_false]
    omega
  · simp only [isDomainUnit, isLetterUnit, isDigitUnit, hdomains, Bool.or_eq_false_iff,
      decide_eq_false_iff_not, List.mem_cons, List.not_mem_nil, or_false]
    omega

theorem isValue_word {length : ℕ} (h : 6 ≤ length) :
    IsValue length (List.replicate (length - 6) 33 ++ utf16Units "bearer") := by
  refine ⟨?_, fun unit hunit => ?_⟩
  · rw [List.length_append, List.length_replicate,
      show (utf16Units "bearer").length = 6 by decide]
    omega
  · obtain hunit | hunit := List.mem_append.1 hunit
    · rw [List.eq_of_mem_replicate hunit]
      decide
    · have hall : ∀ unit ∈ utf16Units "bearer", isValueUnit unit = true := by decide
      exact hall unit hunit

/-- A word at the end of a value makes a token of what follows, which is then redacted. -/
theorem redactUpstreamError_word {text after : List ℕ} {length token : ℕ} (hends : EndsWord text)
    (hopen : OpenPair text length) (hsix : 6 ≤ length) (htoken : bearerTail after = some token) :
    ∃ behind, redactUpstreamError
        (text ++ (List.replicate (length - 6) 33 ++ utf16Units "bearer" ++ after)) =
      emailAddress.replaceAll (credentialPair.scan (List.replicate length 33) 0
        (bearerMatch.replaceAll text)).1 ++ (utf16Units " [REDACTED" ++ 93 :: behind) := by
  have hvalue := isValue_word hsix
  set value := List.replicate (length - 6) 33 ++ utf16Units "bearer" with hvalueDef
  have htokens : bearerMatch.replaceAll (value ++ after) =
      value ++ (utf16Units " [REDACTED]" ++ bearerMatch.replaceAll (after.drop token)) := by
    have hword : bearerMatch (utf16Units "bearer" ++ after) =
        some (utf16Units "bearer" ++ utf16Units " [REDACTED]", 5 + token) := by
      have hlength : (utf16Units "bearer").length = 6 := by decide
      unfold bearerMatch
      rw [← hlength, List.take_left, List.drop_left, htoken, if_pos (by decide)]
      rfl
    have hletters : utf16Units "bearer" = 98 :: utf16Units "earer" := by decide
    have hdrop : (utf16Units "earer" ++ after).drop (5 + token) = after.drop token := by
      have hlength : (utf16Units "earer").length = 5 := by decide
      rw [List.drop_append, List.drop_of_length_le (by omega), hlength, Nat.add_sub_cancel_left,
        List.nil_append]
    rw [hvalueDef, List.append_assoc,
      replaceAll_bearerMatch_marks fun rest => bearerMatch_bars_mark.1 rest]
    rw [hletters, List.cons_append] at hword
    rw [hletters, List.cons_append, MatchPattern.replaceAll_cons_of_some hword, hdrop]
    simp only [List.cons_append, List.append_assoc]
  have hscan := scan_bearerMatch_of_openPair hends hopen (value ++ after)
  have hoverlap : bearerMatch.overlap text (value ++ after) = 0 := congrArg Prod.snd hscan
  have hdelimited : Delimited
      (utf16Units " [REDACTED]" ++ bearerMatch.replaceAll (after.drop token)) :=
    delimited_cons (show isValueUnit 32 = false by decide) _
  have hredacted := credentialPair_redacted [] (by simp) (bearerMatch.replaceAll (after.drop token))
  rw [List.append_nil] at hredacted
  have hpairs := MatchPattern.replaceAll_append_of_none _ hredacted
  have hspace : utf16Units " [REDACTED]" = 32 :: utf16Units "[REDACTED]" := by decide
  have hbracket : utf16Units "[REDACTED]" = utf16Units "[REDACTED" ++ [93] := by decide
  have hinside : emailAddress.replaceAll (utf16Units "[REDACTED") = utf16Units "[REDACTED" := by
    decide
  rw [redactUpstreamError, MatchPattern.replaceAll_append_of_overlap hoverlap, hscan, htokens,
    hopen.replaceAll_credentialPair hvalue hdelimited, hpairs, hspace, List.cons_append,
    MatchPattern.replaceAll_bar emailAddress_bounded (emailAddress_bars_space (by decide)), hbracket,
    List.append_assoc, List.singleton_append,
    MatchPattern.replaceAll_bar emailAddress_bounded
      (emailAddress_bars (by decide) (by decide) (by decide)), hinside]
  exact ⟨_, rfl⟩

/-- The head of what follows a value is not redacted for a token. -/
theorem redacted_ne_replaceAll {unit : ℕ} {rest behind : List ℕ}
    (hunit : isSpaceUnit unit = true ∨ isBearerUnit unit = true) :
    utf16Units "[REDACTED" ++ 93 :: behind ≠ emailAddress.replaceAll
      (credentialPair.replaceAll (bearerMatch.replaceAll (unit :: rest))) := by
  obtain ⟨tokens, htokens⟩ := replaceAll_bearerMatch_cons unit rest
  obtain ⟨pairs, hpairs⟩ := replaceAll_credentialPair_cons unit tokens
  obtain ⟨addresses, haddresses | haddresses⟩ := replaceAll_emailAddress_cons unit pairs
  · rw [htokens, hpairs, haddresses]
    intro heq
    have hfirst : 91 = unit := (List.cons.inj heq).1
    rw [← hfirst] at hunit
    revert hunit
    decide
  · rw [htokens, hpairs, haddresses]
    intro heq
    have hten := congrArg (List.take 10) heq
    rw [List.take_append, List.take_append] at hten
    revert hten
    have hlength : (utf16Units "[REDACTED").length = 9 := by decide
    have hlength' : (utf16Units "[REDACTED-EMAIL]").length = 16 := by decide
    rw [hlength, hlength', List.take_succ_cons, List.take_zero, List.take_zero]
    decide

/-- A value is hidden exactly where a pair goes on over it, and where it is too short to end in the
word Bearer or nothing follows that this would make a token. -/
theorem redactUpstreamError_hides_iff {text after : List ℕ} {length : ℕ} (hlength : 0 < length)
    (hends : EndsWord text) (hafter : Delimited after) :
    (∀ value value', IsValue length value → IsValue length value' →
      redactUpstreamError (text ++ (value ++ after)) =
        redactUpstreamError (text ++ (value' ++ after))) ↔
    OpenPair text length ∧ (length < 6 ∨ bearerTail after = none) := by
  constructor
  · intro hsame
    have hopen : OpenPair text length := by
      by_contra hopen
      have hexclamation : IsMark 33 :=
        ⟨by decide, by decide, by decide, by decide, by decide, by decide, by decide⟩
      have hasterisk : IsMark 42 :=
        ⟨by decide, by decide, by decide, by decide, by decide, by decide, by decide⟩
      obtain ⟨behind, hmark⟩ := redactUpstreamError_marks hlength hopen hafter hexclamation
      obtain ⟨behind', hmark'⟩ := redactUpstreamError_marks hlength hopen hafter hasterisk
      have heq := hsame _ _ (isValue_replicate (show isValueUnit 33 = true by decide) length)
        (isValue_replicate (show isValueUnit 42 = true by decide) length)
      rw [hmark, hmark'] at heq
      exact absurd (List.cons.inj (List.append_cancel_left heq)).1 (by decide)
    refine ⟨hopen, ?_⟩
    by_contra hshows
    obtain ⟨hsix, htoken⟩ := not_or.1 hshows
    obtain ⟨token, htoken⟩ := Option.ne_none_iff_exists'.1 htoken
    have hsix := Nat.le_of_not_lt hsix
    obtain ⟨behind, hword⟩ := redactUpstreamError_word hends hopen hsix htoken
    have hmarks := redactUpstreamError_of_openPair hends hopen
      (isValue_replicate (show isValueUnit 33 = true by decide) length) hafter
      (replaceAll_bearerMatch_marks (fun rest => bearerMatch_bars_mark.1 rest) length after)
    have heq := hsame _ _ (isValue_word hsix)
      (isValue_replicate (show isValueUnit 33 = true by decide) length)
    obtain ⟨space, unit, rest, rfl, hspace, hunit⟩ := exists_of_bearerTail htoken
    have hfirst := MatchPattern.replaceAll_cons_of_none
      (bearerMatch_cons (lowerUnit_ne_of_isSpaceUnit hspace) (unit :: rest))
    have hfirst' := MatchPattern.replaceAll_cons_of_none (credentialPair_cons
      (isKeyUnit_of_isSpaceUnit hspace) (bearerMatch.replaceAll (unit :: rest)))
    rw [hword, hmarks, hfirst, hfirst', MatchPattern.replaceAll_bar emailAddress_bounded
      (emailAddress_bars_space hspace)] at heq
    exact redacted_ne_replaceAll hunit (List.cons.inj (List.append_cancel_left heq)).2
  · rintro ⟨hopen, hbearer⟩ value value' hvalue hvalue'
    rw [redactUpstreamError_of_openPair hends hopen hvalue hafter
        (replaceAll_bearerMatch_value hvalue hafter hbearer),
      redactUpstreamError_of_openPair hends hopen hvalue' hafter
        (replaceAll_bearerMatch_value hvalue' hafter hbearer)]

end RlyGateway
