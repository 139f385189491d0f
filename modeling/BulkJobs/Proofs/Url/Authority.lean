import BulkJobs.Proofs.Text.Ends
import BulkJobs.Proofs.Url.Domain
import BulkJobs.Url.Parse
import Mathlib.Data.List.TakeWhile

/-!
# Reading an authority

The authority of a URL with a special scheme is what stands before the first slash, question mark or
number sign, and nothing after that has a part in it: the authority that is read from a text is that
of its start, and the rest of the text is left over as it is (`readAuthority_append`). An authority
never ends in a blank (`readAuthority_concat`): the name would be none, an address would not be
closed, and a port would not end.
-/

set_option autoImplicit false
set_option relaxedAutoImplicit false

namespace BulkJobs.Url

/-- Whether a text holds nothing that ends the authority of a URL of the web. -/
def IsUnbroken (text : List Char) : Prop :=
  ∀ c ∈ text, endsAuthority true c = false

theorem IsUnbroken.drop {text : List Char} (htext : IsUnbroken text) (n : Nat) :
    IsUnbroken (text.drop n) := by
  intro c hc
  exact htext c (List.mem_of_mem_drop hc)

/-- Whether a text is empty or starts with a character that ends an authority. -/
def StartsBehind (tail : List Char) : Prop :=
  ∀ c ∈ tail.head?, endsAuthority true c = true

theorem StartsBehind.nil : StartsBehind [] := by
  rintro c ⟨⟩

theorem StartsBehind.cons {c : Char} (hc : endsAuthority true c = true) (rest : List Char) :
    StartsBehind (c :: rest) := by
  rintro d ⟨⟩
  exact hc

theorem IsUnbroken.takeWhile_append {written tail : List Char} (hwritten : IsUnbroken written)
    (htail : StartsBehind tail) :
    (written ++ tail).takeWhile (!endsAuthority true ·) = written := by
  have hall : ∀ c ∈ written, (!endsAuthority true c) = true := by
    intro c hc
    simp [hwritten c hc]
  rw [List.takeWhile_append_of_pos hall]
  cases tail with
  | nil => simp
  | cons c rest => simp [htail c rfl]

/-- A text is what stands before its first end of an authority, and what starts there. -/
theorem exists_eq_unbroken_append (text : List Char) : ∃ written tail,
    text = written ++ tail ∧ IsUnbroken written ∧ StartsBehind tail := by
  refine ⟨text.takeWhile (!endsAuthority true ·), text.dropWhile (!endsAuthority true ·),
    List.takeWhile_append_dropWhile.symm, ?_, ?_⟩
  · intro c hc
    simpa using List.mem_takeWhile_imp hc
  · intro c hc
    have hhead := List.head?_dropWhile_not (!endsAuthority true ·) text
    rw [Option.mem_def] at hc
    simpa [hc] using hhead

/-! ### Host and port -/

/-- A character that ends no host goes into the host, and may open or close a bracket. -/
theorem splitHost_cons {inBrackets : Bool} {c : Char} (hc : endsAuthority true c = false)
    (hcolon : ¬(c = ':' ∧ inBrackets = false)) (rest : List Char) : ∃ inside : Bool,
      ∀ tail, splitHost true inBrackets (c :: (rest ++ tail)) =
        (c :: (splitHost true inside (rest ++ tail)).1,
          (splitHost true inside (rest ++ tail)).2) := by
  have hgo : (endsAuthority true c || (c == ':' && !inBrackets)) = false := by
    simpa [hc] using hcolon
  refine ⟨if c == '[' then true else if c == ']' then false else inBrackets, fun tail ↦ ?_⟩
  rw [splitHost, hgo]
  rfl

theorem splitHost_append (inBrackets : Bool) {located tail : List Char}
    (hlocated : IsUnbroken located) (htail : StartsBehind tail) :
    splitHost true inBrackets (located ++ tail) =
      ((splitHost true inBrackets located).1, (splitHost true inBrackets located).2 ++ tail) := by
  induction located generalizing inBrackets with
  | nil =>
    cases tail with
    | nil => rfl
    | cons c rest => simp [splitHost, htail c rfl]
  | cons c located ih =>
    have hc : endsAuthority true c = false := hlocated c List.mem_cons_self
    have hrest : IsUnbroken located := fun d hd ↦ hlocated d (List.mem_cons_of_mem _ hd)
    by_cases hcolon : c = ':' ∧ inBrackets = false
    · simp [splitHost, hcolon.1, hcolon.2]
    · obtain ⟨inside, hstep⟩ := splitHost_cons hc hcolon located
      have hnil := hstep []
      rw [List.append_nil] at hnil
      rw [List.cons_append, hstep tail, ih inside hrest, hnil]

/-- Host and rest are the text that was cut, and the rest is empty or starts with a colon. -/
theorem splitHost_parts (inBrackets : Bool) {located : List Char} (hlocated : IsUnbroken located) :
    located = (splitHost true inBrackets located).1 ++ (splitHost true inBrackets located).2 ∧
      ∀ c ∈ (splitHost true inBrackets located).2.head?, c = ':' := by
  induction located generalizing inBrackets with
  | nil => simp [splitHost]
  | cons c located ih =>
    have hc : endsAuthority true c = false := hlocated c List.mem_cons_self
    have hrest : IsUnbroken located := fun d hd ↦ hlocated d (List.mem_cons_of_mem _ hd)
    by_cases hcolon : c = ':' ∧ inBrackets = false
    · simp [splitHost, hcolon.1, hcolon.2]
    · obtain ⟨inside, hstep⟩ := splitHost_cons hc hcolon located
      have hnil := hstep []
      rw [List.append_nil] at hnil
      obtain ⟨heq, hhead⟩ := ih inside hrest
      rw [hnil]
      exact ⟨congrArg (c :: ·) heq, hhead⟩

theorem not_digit_of_endsAuthority {c : Char} (hc : endsAuthority true c = true) :
    Text.isAsciiDigit c = false := by
  have hcases : ((c = '/' ∨ c = '?') ∨ c = '#') ∨ c = '\\' := by
    simpa [endsAuthority] using hc
  rcases hcases with ((rfl | rfl) | rfl) | rfl <;> decide

/-- What follows a port (`htail`) ends it exactly when nothing unbroken stands between them. -/
theorem endsPort_append {text tail : List Char} (htext : IsUnbroken text)
    (htail : StartsBehind tail) : readPort.endsPort (text ++ tail) = text.isEmpty := by
  cases text with
  | nil =>
    cases tail with
    | nil => rfl
    | cons c rest => exact htail c rfl
  | cons c text => exact htext c List.mem_cons_self

theorem endsPort_eq_isEmpty {text : List Char} (htext : IsUnbroken text) :
    readPort.endsPort text = text.isEmpty := by
  simpa using endsPort_append htext StartsBehind.nil

theorem readPort_append (scheme : String) {text tail : List Char} (htext : IsUnbroken text)
    (htail : StartsBehind tail) :
    readPort scheme (text ++ tail) = (readPort scheme text).map fun read ↦ (read.1, tail) := by
  have hdigits : (text ++ tail).takeWhile Text.isAsciiDigit = text.takeWhile Text.isAsciiDigit := by
    rw [List.takeWhile_append]
    split_ifs with hall
    · have hnone : tail.takeWhile Text.isAsciiDigit = [] := by
        cases tail with
        | nil => rfl
        | cons c rest => simp [not_digit_of_endsAuthority (htail c rfl)]
      rw [hnone, List.append_nil]
      exact ((List.takeWhile_prefix _).eq_of_length hall).symm
    · rfl
  have hlength : (text.takeWhile Text.isAsciiDigit).length ≤ text.length :=
    (List.takeWhile_prefix _).length_le
  have hdrop := htext.drop (text.takeWhile Text.isAsciiDigit).length
  unfold readPort
  simp only [hdigits, List.drop_append_of_le_length hlength, endsPort_append hdrop htail,
    endsPort_eq_isEmpty hdrop]
  cases hrest : text.drop (text.takeWhile Text.isAsciiDigit).length with
  | nil =>
    cases Text.decimal? (text.takeWhile Text.isAsciiDigit) with
    | none => rfl
    | some n =>
      simp only [List.isEmpty_nil, Bool.not_true, Bool.or_false, List.nil_append]
      split_ifs <;> rfl
  | cons c rest =>
    cases Text.decimal? (text.takeWhile Text.isAsciiDigit) <;> simp [Except.map]

/-! ### The authority -/

theorem splitLastAt_unbroken {written : List Char} (hwritten : IsUnbroken written) :
    IsUnbroken (splitLastAt written).2 := by
  unfold splitLastAt
  split_ifs
  · intro c hc
    refine hwritten c ?_
    have hsub := (List.takeWhile_sublist (· != '@')).subset (List.mem_reverse.mp hc)
    exact List.mem_reverse.mp hsub
  · exact hwritten

/-- The authority of a URL with a special scheme (`hspecial`), read from the text before its end
(`hwritten`). The rule that nobody may ask at an empty host is no rule of its own here, as no host
is empty. -/
theorem readAuthority_eq {scheme : String} (hspecial : isSpecialScheme scheme = true)
    {written tail : List Char} (hwritten : IsUnbroken written) (htail : StartsBehind tail) :
    readAuthority scheme (written ++ tail) = (do
      let name := (userInfo ((splitLastAt written).1.getD [])).1
      let password := (userInfo ((splitLastAt written).1.getD [])).2
      let host ← readHost true (!name.isEmpty || password.isSome)
        (splitHost true false (splitLastAt written).2).1
      let (port, rest) ← readPortBehind scheme host
        ((splitHost true false (splitLastAt written).2).2 ++ tail)
      return ({ username := name, password, host, port }, rest)) := by
  have hhost := splitHost_append false (splitLastAt_unbroken hwritten) htail
  unfold readAuthority
  simp only [hspecial, hwritten.takeWhile_append htail, List.drop_left, hhost]
  by_cases hearly : ((splitLastAt written).1 == some [] && (splitLastAt written).2.isEmpty
      && !tail.isEmpty) = true
  · have hempty : (splitLastAt written).2 = [] := by
      simp only [Bool.and_eq_true, List.isEmpty_iff] at hearly
      exact hearly.1.2
    rw [if_pos hearly, hempty]
    rfl
  · rw [if_neg hearly]

/-- The port behind a host and what follows the authority do not depend on one another. -/
theorem readPortBehind_append (scheme : String) (host : Host) {port tail : List Char}
    (hport : IsUnbroken port) (hhead : ∀ c ∈ port.head?, c = ':') (htail : StartsBehind tail) :
    readPortBehind scheme host (port ++ tail) =
      (readPortBehind scheme host port).map fun read ↦ (read.1, tail) := by
  cases port with
  | nil =>
    have hcolon : ∀ rest, tail ≠ ':' :: rest := by
      rintro rest rfl
      exact absurd (htail ':' rfl) (by decide)
    rw [List.nil_append, readPortBehind.eq_2 _ _ _ hcolon]
    rfl
  | cons c digits =>
    obtain rfl : c = ':' := hhead c rfl
    have hdigits : IsUnbroken digits := fun d hd ↦ hport d (List.mem_cons_of_mem _ hd)
    rw [List.cons_append, readPortBehind, readPortBehind, readPort_append scheme hdigits htail]
    split_ifs <;> rfl

/-- Nothing behind the end of an authority (`htail`) has a part in what is read as the authority. -/
theorem readAuthority_append {scheme : String} (hspecial : isSpecialScheme scheme = true)
    {written tail : List Char} (hwritten : IsUnbroken written) (htail : StartsBehind tail) :
    readAuthority scheme (written ++ tail) =
      (readAuthority scheme written).map fun read ↦ (read.1, tail) := by
  have hlocated := splitLastAt_unbroken hwritten
  obtain ⟨heq, hhead⟩ := splitHost_parts false hlocated
  have hport : IsUnbroken (splitHost true false (splitLastAt written).2).2 := by
    intro c hc
    refine hlocated c ?_
    rw [heq]
    exact List.mem_append_right _ hc
  have hnil := readAuthority_eq hspecial hwritten StartsBehind.nil
  rw [List.append_nil] at hnil
  rw [readAuthority_eq hspecial hwritten htail, hnil, List.append_nil]
  simp only [readPortBehind_append scheme _ hport hhead htail]
  cases readHost true _ (splitHost true false (splitLastAt written).2).1 with
  | error problem => rfl
  | ok host =>
    cases hread : readPortBehind scheme host (splitHost true false (splitLastAt written).2).2 <;>
      simp [hread, Except.map, bind, Except.bind, pure, Except.pure]

/-! ### Blanks at the end of an authority -/

theorem not_endsAuthority_of_blank {c : Char} (hc : c.toNat ≤ 0x20) :
    endsAuthority true c = false := by
  have hslash : c ≠ '/' := Text.ne_of_blank hc (by decide)
  have hquestion : c ≠ '?' := Text.ne_of_blank hc (by decide)
  have hnumber : c ≠ '#' := Text.ne_of_blank hc (by decide)
  have hback : c ≠ '\\' := Text.ne_of_blank hc (by decide)
  simp [endsAuthority, hslash, hquestion, hnumber, hback]

theorem IsUnbroken.concat {written : List Char} (hwritten : IsUnbroken written) {c : Char}
    (hc : endsAuthority true c = false) : IsUnbroken (written ++ [c]) := by
  intro d hd
  rcases List.mem_append.mp hd with hd | hd
  · exact hwritten d hd
  · rw [List.mem_singleton.mp hd]
    exact hc

theorem splitLastAt_concat (written : List Char) {c : Char} (hc : c ≠ '@') :
    (splitLastAt (written ++ [c])).2 = (splitLastAt written).2 ++ [c] := by
  have hcontains : (written ++ [c]).contains '@' = written.contains '@' := by
    simp [List.contains_eq_mem, Ne.symm hc]
  unfold splitLastAt
  rw [hcontains]
  split_ifs
  · simp [hc]
  · rfl

/-- A text that ends in a blank (`hc`) is the text of no host: no name and no address ends so. -/
theorem specialHost_concat (text : List Char) {c : Char} (hc : c.toNat ≤ 0x20) :
    ∃ problem, specialHost (text ++ [c]) = .error problem := by
  have hbracket : c ≠ ']' := Text.ne_of_blank hc (by decide)
  unfold specialHost
  split_ifs
  · exact ⟨.invalidIpv6, by simp [bracketed, hbracket]⟩
  · exact ⟨.invalidInternationalName, by rw [Domain.parse_concat text hc]; rfl⟩

/-- A port that is followed by a blank (`hc`) does not end, so it is not read. -/
theorem readPort_concat (scheme : String) {text : List Char} (htext : IsUnbroken text) {c : Char}
    (hc : c.toNat ≤ 0x20) : ∃ problem, readPort scheme (text ++ [c]) = .error problem := by
  have hdigit : Text.isAsciiDigit c = false := by
    have hzero : ¬ '0' ≤ c := Text.not_le_blank hc (by decide)
    simp [Text.isAsciiDigit, hzero]
  have hunbroken := htext.concat (not_endsAuthority_of_blank hc)
  have hmore : (text ++ [c]).drop ((text ++ [c]).takeWhile Text.isAsciiDigit).length ≠ [] := by
    intro hnone
    have hall := (List.takeWhile_prefix Text.isAsciiDigit).eq_of_length_le
      (List.drop_eq_nil_iff.mp hnone)
    have hlast : c ∈ (text ++ [c]).takeWhile Text.isAsciiDigit := by
      rw [hall]
      exact List.mem_concat_self
    rw [List.mem_takeWhile_imp hlast] at hdigit
    cases hdigit
  have hrest : readPort.endsPort
      ((text ++ [c]).drop ((text ++ [c]).takeWhile Text.isAsciiDigit).length) = false := by
    rw [endsPort_eq_isEmpty (hunbroken.drop _)]
    simpa using hmore
  unfold readPort
  simp only [hrest]
  cases Text.decimal? ((text ++ [c]).takeWhile Text.isAsciiDigit) with
  | none => exact ⟨.invalidPort, rfl⟩
  | some n => exact ⟨.invalidPort, by simp⟩

theorem readHost_concat (asked : Bool) (text : List Char) {c : Char} (hc : c.toNat ≤ 0x20) :
    ∃ problem, readHost true asked (text ++ [c]) = .error problem := by
  obtain ⟨problem, hproblem⟩ := specialHost_concat text hc
  refine ⟨problem, ?_⟩
  simp [readHost, hproblem, bind, Except.bind]

theorem readPortBehind_concat (scheme : String) (host : Host) {port : List Char}
    (hport : IsUnbroken port) {c : Char} (hc : c.toNat ≤ 0x20)
    (hhead : ∀ d ∈ (port ++ [c]).head?, d = ':') :
    ∃ problem, readPortBehind scheme host (port ++ [c]) = .error problem := by
  cases port with
  | nil => exact absurd (hhead c rfl) (Text.ne_of_blank hc (by decide))
  | cons d digits =>
    obtain rfl : d = ':' := hhead d rfl
    obtain ⟨problem, hproblem⟩ :=
      readPort_concat scheme (fun e he ↦ hport e (List.mem_cons_of_mem _ he)) hc
    rw [List.cons_append, readPortBehind, hproblem]
    by_cases hempty : host.isEmpty
    · exact ⟨.emptyHost, if_pos hempty⟩
    · exact ⟨problem, if_neg hempty⟩

/-- A text that ends in a blank (`hc`) is not read as an authority, whatever is behind its end. -/
theorem readAuthority_concat {scheme : String} (hspecial : isSpecialScheme scheme = true)
    {written tail : List Char} (hwritten : IsUnbroken written) {c : Char} (hc : c.toNat ≤ 0x20)
    (htail : StartsBehind tail) :
    ∃ problem, readAuthority scheme (written ++ [c] ++ tail) = .error problem := by
  have hlocated := (splitLastAt_unbroken hwritten).concat (not_endsAuthority_of_blank hc)
  obtain ⟨heq, hhead⟩ := splitHost_parts false hlocated
  have hfail : ∃ problem,
      readAuthority scheme (written ++ [c]) = .error problem := by
    have hnil := readAuthority_eq hspecial
      (hwritten.concat (not_endsAuthority_of_blank hc)) StartsBehind.nil
    rw [List.append_nil, splitLastAt_concat written (Text.ne_of_blank hc (by decide)),
      List.append_nil] at hnil
    rw [hnil]
    generalize userInfo ((splitLastAt (written ++ [c])).1.getD []) = asking
    generalize splitHost true false ((splitLastAt written).2 ++ [c]) = parts at heq hhead ⊢
    obtain ⟨hostText, port⟩ := parts
    rcases List.eq_nil_or_concat port with rfl | ⟨front, last, rfl⟩
    · -- the blank belongs to the host
      obtain rfl : (splitLastAt written).2 ++ [c] = hostText := by simpa using heq
      obtain ⟨problem, hproblem⟩ :=
        readHost_concat (!asking.1.isEmpty || asking.2.isSome) (splitLastAt written).2 hc
      exact ⟨problem, by simp only [hproblem]; rfl⟩
    · -- the blank belongs to the port
      simp only [List.concat_eq_append] at heq hhead ⊢
      rw [← List.append_assoc] at heq
      obtain ⟨hfront, rfl⟩ := List.append_singleton_inj.mp heq
      have hport : IsUnbroken front := by
        intro d hd
        refine splitLastAt_unbroken hwritten d ?_
        rw [hfront]
        exact List.mem_append_right _ hd
      cases hhost : readHost true (!asking.1.isEmpty || asking.2.isSome) hostText with
      | error problem => exact ⟨problem, rfl⟩
      | ok host =>
        obtain ⟨problem, hproblem⟩ := readPortBehind_concat scheme host hport hc hhead
        exact ⟨problem, by simp only [bind, Except.bind, hproblem]⟩
  obtain ⟨problem, hproblem⟩ := hfail
  refine ⟨problem, ?_⟩
  rw [readAuthority_append hspecial (hwritten.concat (not_endsAuthority_of_blank hc)) htail,
    hproblem]
  rfl

end BulkJobs.Url
