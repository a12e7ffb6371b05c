import Mathlib

/-! # The login gate

`pam_goodix_login_gate.c`: an empty token selects the fingerprint reader, but only while three
PAM files have the rows that were reviewed.  The module scans a file octet by octet and each
line by a normaliser of its own into a buffer of 512.
-/

namespace Goodix.Deployment.LoginGate

def ascii (text : String) : List UInt8 := text.toList.map fun letter => UInt8.ofNat letter.toNat

def loginAuth : List (List UInt8) := [
  "auth [success=done ignore=ignore default=bad] pam_selinux_permit.so",
  "auth substack password-auth",
  "-auth optional pam_gnome_keyring.so",
  "-auth optional pam_kwallet5.so",
  "-auth optional pam_kwallet.so",
  "-auth optional pam_oo7.so",
  "auth include postlogin"].map ascii

def passwordAuth : List (List UInt8) := [
  "auth required pam_env.so",
  "auth required pam_faildelay.so delay=2000000",
  "auth sufficient pam_unix.so nullok",
  "auth required pam_deny.so"].map ascii

/-- Why a function of the module gives 0; `overrun` is a write past a buffer, which it must not
come to. -/
inductive Stop where
  | refused
  | overrun
  deriving DecidableEq, Repr

def isBlank (octet : UInt8) : Bool := octet = 0x20 || octet = 0x09

/-- The octets that may stand in a row, blanks apart. -/
def isPlain (octet : UInt8) : Bool :=
  !(octet < 33 || octet > 126 || octet = 0x5c || octet = 0x23)

/-- `normalized[length++] = octet` -/
def put (normalized : List UInt8) (octet : UInt8) : Except Stop (List UInt8) :=
  if normalized.length < 512 then .ok (normalized ++ [octet]) else .error .overrun

/-- The octet, behind the space that is due. -/
def putSpaced (normalized : List UInt8) (space : Bool) (octet : UInt8) : Except Stop (List UInt8) :=
  (if space then put normalized 0x20 else .ok normalized).bind fun normalized =>
    put normalized octet

/-- The loop of `check_line` that normalises, with the terminator behind it. -/
def normalize : List UInt8 → List UInt8 → Bool → Except Stop (List UInt8)
  | [], normalized, _ => (put normalized 0).map fun _ => normalized
  | octet :: rest, normalized, space =>
    if isBlank octet then normalize rest normalized (normalized.length ≠ 0)
    else if isPlain octet then
      (putSpaced normalized space octet).bind fun normalized => normalize rest normalized false
    else .error .refused

/-- A row without the hyphen of a module that may be missing. -/
def rowType (normalized : List UInt8) : List UInt8 :=
  if normalized.head? = some 0x2d then normalized.tail else normalized

def isAuth (row : List UInt8) : Bool := (ascii "auth ").isPrefixOf (rowType row)

def isDelegated (row : List UInt8) : Bool :=
  (ascii "account ").isPrefixOf (rowType row) || (ascii "password ").isPrefixOf (rowType row) ||
    (ascii "session ").isPrefixOf (rowType row)

/-- The end of `check_line`: the count of matched rows with a normalised row. -/
def judge (expected : List (List UInt8)) (row : List UInt8) (matched : Nat) : Except Stop Nat :=
  if isAuth row then
    if matched = expected.length ∨ expected[matched]? ≠ some row then .error .refused
    else .ok (matched + 1)
  else if isDelegated row then .ok matched
  else .error .refused

/-- `check_line` -/
def checkLine (expected : List (List UInt8)) (line : List UInt8) (matched : Nat) :
    Except Stop Nat :=
  if 0x5c ∈ line then .error .refused
  else
    match line.dropWhile isBlank with
    | [] => .ok matched
    | first :: rest =>
      if first = 0x23 then .ok matched
      else (normalize (first :: rest) [] false).bind fun row => judge expected row matched

/-! ## The scan of a file -/

structure Scan where
  line : List UInt8
  total : Nat
  lines : Nat
  matched : Nat
  deriving DecidableEq, Repr

/-- A line has ended. -/
def Scan.endLine (expected : List (List UInt8)) (scan : Scan) : Except Stop Scan :=
  if scan.lines + 1 > 256 then .error .refused
  else
    (checkLine expected scan.line scan.matched).map fun matched =>
      { scan with line := [], lines := scan.lines + 1, matched }

/-- One octet of the file. -/
def Scan.octet (expected : List (List UInt8)) (scan : Scan) (octet : UInt8) : Except Stop Scan :=
  if scan.total + 1 > 65536 ∨ octet = 0 then .error .refused
  else if octet = 0x0a then { scan with total := scan.total + 1 }.endLine expected
  else if scan.line.length = 511 then .error .refused
  else .ok { scan with total := scan.total + 1, line := scan.line ++ [octet] }

/-- The scan to the end of the file, a last line without its newline included. -/
def Scan.file (expected : List (List UInt8)) : List UInt8 → Scan → Except Stop Scan
  | [], scan => if scan.line = [] then .ok scan else scan.endLine expected
  | octet :: rest, scan => (scan.octet expected octet).bind (Scan.file expected rest)

/-- The scan of a content, to its count of matched rows. -/
def scanContent (expected : List (List UInt8)) (content : List UInt8) : Except Stop Nat :=
  (Scan.file expected content ⟨[], 0, 0, 0⟩).map Scan.matched

/-- A path that can be opened: what it is, and whether its stream can be made, read and closed. -/
structure File where
  regular : Bool
  size : Nat
  content : List UInt8
  streams : Bool
  reads : Bool
  closes : Bool
  deriving DecidableEq, Repr

/-- `auth_shape` -/
def authShape (file : Option File) (expected : List (List UInt8)) : Bool :=
  match file with
  | none => false
  | some file =>
    if !file.regular || file.size > 65536 then false
    else if !file.streams then false
    else
      match scanContent expected file.content with
      | .error _ => false
      | .ok matched => file.reads && matched = expected.length && file.closes

/-- `PAM_SUCCESS` of `pam_sm_authenticate`, for its count of arguments, the token it is given and
the three files. -/
def authenticate (arguments : Nat) (token : Option (List UInt8))
    (vendor password postlogin : Option File) : Bool :=
  arguments = 0 && token = some [] && authShape vendor loginAuth &&
    authShape password passwordAuth && authShape postlogin []

/-! ## The reviewed files -/

/-- The words between blanks. -/
def words (line : List UInt8) : List (List UInt8) :=
  (line.splitOnP isBlank).filter (· ≠ [])

/-- The row of a line, with single spaces; none of a blank line or a comment. -/
def rowOf (line : List UInt8) : Option (List UInt8) :=
  match words line with
  | [] => none
  | first :: rest =>
    if first.head? = some 0x23 then none else some ([0x20].intercalate (first :: rest))

/-- The lines of a content: what a newline ends, and what is behind the last one. -/
def linesFrom : List UInt8 → List UInt8 → List (List UInt8)
  | line, [] => if line = [] then [] else [line]
  | line, octet :: rest =>
    if octet = 0x0a then line :: linesFrom [] rest else linesFrom (line ++ [octet]) rest

def linesOf (content : List UInt8) : List (List UInt8) := linesFrom [] content

def rowsOf (content : List UInt8) : List (List UInt8) := (linesOf content).filterMap rowOf

/-- A content with the limits, and with the rows that were reviewed. -/
structure Reviewed (expected : List (List UInt8)) (content : List UInt8) : Prop where
  size : content.length ≤ 65536
  few : (linesOf content).length ≤ 256
  short : ∀ line ∈ linesOf content, line.length ≤ 511
  noNul : 0 ∉ content
  noBackslash : 0x5c ∉ content
  auths : (rowsOf content).filter isAuth = expected
  others : ∀ row ∈ rowsOf content, isAuth row = false → isDelegated row = true

/-- Rows are printable, and no comment stands behind one. -/
def Printable (content : List UInt8) : Prop :=
  ∀ line ∈ linesOf content, rowOf line ≠ none → ∀ octet ∈ line, isBlank octet ∨ isPlain octet

/-! ## Normalising -/

/-- What normalising leaves of the octets behind a first one. -/
def collapse : Bool → List UInt8 → List UInt8
  | _, [] => []
  | space, octet :: rest =>
    if isBlank octet then collapse true rest
    else (if space then [0x20, octet] else [octet]) ++ collapse false rest

theorem putSpaced_eq {normalized : List UInt8} {space : Bool} (octet : UInt8)
    (room : normalized.length + space.toNat < 512) :
    putSpaced normalized space octet =
      .ok (normalized ++ if space then [0x20, octet] else [octet]) := by
  cases space with
  | false =>
    simp only [Bool.toNat_false, Nat.add_zero] at room
    simp [putSpaced, put, Except.bind, room]
  | true =>
    simp only [Bool.toNat_true] at room
    have first : normalized.length < 512 := by omega
    simp [putSpaced, put, Except.bind, first, room]

/-- A line of at most 511 octets does not fill the buffer: what is written, with the space that is
due, is never more than what was read. -/
theorem normalize_eq (rest normalized : List UInt8) (space : Bool) (begun : normalized ≠ [])
    (room : normalized.length + space.toNat + rest.length ≤ 511) :
    normalize rest normalized space =
      if ∀ octet ∈ rest, isBlank octet ∨ isPlain octet then .ok (normalized ++ collapse space rest)
      else .error .refused := by
  induction rest generalizing normalized space with
  | nil =>
    have terminated : normalized.length < 512 := by
      simp only [List.length_nil] at room
      omega
    simp [normalize, put, terminated, collapse, Except.map]
  | cons octet rest ih =>
    simp only [List.length_cons] at room
    by_cases blank : isBlank octet = true
    · have due : decide (normalized.length ≠ 0) = true := by simpa using begun
      rw [normalize, if_pos blank, due, ih normalized true begun (by
        have := Bool.toNat_le space
        simp only [Bool.toNat_true]
        omega)]
      simp [collapse, blank]
    · rw [normalize, if_neg blank]
      by_cases plain : isPlain octet = true
      · rw [if_pos plain, putSpaced_eq octet (by omega)]
        have written : (normalized ++ if space then [0x20, octet] else [octet]).length =
            normalized.length + space.toNat + 1 := by
          cases space <;> simp
        simp only [Except.bind]
        rw [ih _ false (by cases space <;> simp) (by
          rw [written]
          simp only [Bool.toNat_false]
          omega)]
        simp [collapse, blank, plain]
      · rw [if_neg plain, if_neg]
        intro all
        exact (all octet (by simp)).elim blank plain

/-- Words, each behind a space. -/
def spaced (pieces : List (List UInt8)) : List UInt8 :=
  (pieces.filter (· ≠ [])).flatMap fun word => 0x20 :: word

/-- Collapsing puts a space before every word that a blank has separated. -/
theorem collapse_eq (rest : List UInt8) :
    collapse true rest = spaced (rest.splitOnP isBlank) ∧
      ∃ first others, rest.splitOnP isBlank = first :: others ∧
        collapse false rest = first ++ spaced others := by
  induction rest with
  | nil => exact ⟨rfl, [], [], rfl, rfl⟩
  | cons octet rest ih =>
    obtain ⟨separated, first, others, pieces, joined⟩ := ih
    by_cases blank : isBlank octet = true
    · have cut : (octet :: rest).splitOnP isBlank = [] :: rest.splitOnP isBlank := by
        rw [List.splitOnP_cons_eq_if_modifyHead, if_pos blank]
      refine ⟨?_, [], _, cut, ?_⟩
      · rw [cut]
        simp [collapse, blank, separated, spaced]
      · simp [collapse, blank, separated]
    · have cut : (octet :: rest).splitOnP isBlank = (octet :: first) :: others := by
        rw [List.splitOnP_cons_eq_if_modifyHead, if_neg blank, pieces]
        rfl
      refine ⟨?_, _, _, cut, ?_⟩
      · rw [cut]
        simp [collapse, blank, joined, spaced]
      · simp [collapse, blank, joined]

theorem intercalate_eq (first : List UInt8) (others : List (List UInt8)) :
    [0x20].intercalate (first :: others) =
      first ++ others.flatMap fun word => 0x20 :: word := by
  induction others generalizing first with
  | nil => simp
  | cons other others ih => rw [List.intercalate_cons_cons, ih]; simp

/-- Blanks in front of a line are no words. -/
theorem words_dropWhile (line : List UInt8) : words (line.dropWhile isBlank) = words line := by
  induction line with
  | nil => rfl
  | cons octet line ih =>
    by_cases blank : isBlank octet = true
    · rw [List.dropWhile_cons_of_pos blank, ih]
      simp [words, List.splitOnP_cons_eq_if_modifyHead, blank]
    · rw [List.dropWhile_cons_of_neg blank]

/-- The row of a line that starts with something. -/
theorem rowOf_cons {first : UInt8} {rest : List UInt8} (printed : isBlank first = false) :
    rowOf (first :: rest) =
      if first = 0x23 then none else some (first :: collapse false rest) := by
  obtain ⟨-, word, others, pieces, joined⟩ := collapse_eq rest
  have cut : words (first :: rest) = (first :: word) :: others.filter (· ≠ []) := by
    rw [words, List.splitOnP_cons_eq_if_modifyHead, if_neg (by simp [printed]), pieces]
    simp
  rw [rowOf, cut]
  simp only [List.head?_cons, Option.some.injEq, intercalate_eq, joined]
  rfl

theorem rowOf_dropWhile (line : List UInt8) : rowOf (line.dropWhile isBlank) = rowOf line := by
  simp only [rowOf, words_dropWhile]

/-- What is plain in a line is plain behind its blanks. -/
theorem plain_dropWhile (line : List UInt8) :
    (∀ octet ∈ line.dropWhile isBlank, isBlank octet ∨ isPlain octet) ↔
      ∀ octet ∈ line, isBlank octet ∨ isPlain octet := by
  induction line with
  | nil => rfl
  | cons octet line ih =>
    by_cases blank : isBlank octet = true
    · rw [List.dropWhile_cons_of_pos blank, ih]
      simp [blank]
    · rw [List.dropWhile_cons_of_neg blank]

/-- `check_line` in terms of the row of the line. -/
theorem checkLine_eq (expected : List (List UInt8)) {line : List UInt8} (matched : Nat)
    (short : line.length ≤ 511) :
    checkLine expected line matched =
      if 0x5c ∈ line then .error .refused
      else
        match rowOf line with
        | none => .ok matched
        | some row =>
          if ∀ octet ∈ line, isBlank octet ∨ isPlain octet then judge expected row matched
          else .error .refused := by
  have stripped := List.length_dropWhile_le isBlank line
  simp only [checkLine, ← plain_dropWhile line, ← rowOf_dropWhile line]
  by_cases continued : 0x5c ∈ line
  · rw [if_pos continued, if_pos continued]
  rw [if_neg continued, if_neg continued]
  cases left : line.dropWhile isBlank with
  | nil => rfl
  | cons first rest =>
    have printed : isBlank first = false := by
      have head := List.head?_dropWhile_not isBlank line
      rw [left] at head
      simpa using head
    rw [left, List.length_cons] at stripped
    rw [rowOf_cons printed]
    by_cases comment : first = 0x23
    · simp [comment]
    · simp only [if_neg comment]
      rw [normalize, if_neg (by simp [printed])]
      by_cases plain : isPlain first = true
      · have begun : putSpaced [] false first = .ok [first] := putSpaced_eq first (by simp)
        rw [if_pos plain, begun]
        simp only [Except.bind]
        rw [normalize_eq rest [first] false (by simp) (by simp; omega)]
        by_cases all : ∀ octet ∈ rest, isBlank octet ∨ isPlain octet
        · rw [if_pos all, if_pos (by simpa [plain] using all)]
          rfl
        · rw [if_neg all, if_neg (by simpa [plain] using all)]
      · rw [if_neg plain, if_neg]
        · rfl
        · intro all
          exact (all first (by simp)).elim (by simp [printed]) plain

/-! ## The rows of a list of lines -/

theorem judge_eq_ok {expected : List (List UInt8)} {row : List UInt8} {matched count : Nat} :
    judge expected row matched = .ok count ↔
      (isAuth row = true ∧ expected[matched]? = some row ∧ count = matched + 1) ∨
        (isAuth row = false ∧ isDelegated row = true ∧ count = matched) := by
  unfold judge
  cases auth : isAuth row with
  | true =>
    by_cases due : expected[matched]? = some row
    · have inside := (List.getElem?_eq_some_iff.mp due).1
      have fits : ¬ matched = expected.length := by omega
      simp only [due, fits, if_true, ne_eq, not_true_eq_false, or_false, if_false,
        Except.ok.injEq, true_and, reduceCtorEq, false_and]
      exact ⟨Eq.symm, Eq.symm⟩
    · simp [due]
  | false =>
    cases delegated : isDelegated row with
    | true =>
      simp only [Bool.false_eq_true, if_false, if_true, Except.ok.injEq, false_and, false_or,
        true_and]
      exact ⟨Eq.symm, Eq.symm⟩
    | false => simp

/-- The lines of a file, one after the other. -/
def checkLines (expected : List (List UInt8)) : List (List UInt8) → Nat → Except Stop Nat
  | [], matched => .ok matched
  | line :: lines, matched => (checkLine expected line matched).bind (checkLines expected lines)

/-- What a line must be for the gate to go on. -/
structure LineFine (line : List UInt8) : Prop where
  noBackslash : 0x5c ∉ line
  printable : rowOf line ≠ none → ∀ octet ∈ line, isBlank octet ∨ isPlain octet
  delegated : ∀ row, rowOf line = some row → isAuth row = false → isDelegated row = true

/-- The authentication rows that are met next are those that are expected next. -/
theorem due_cons {expected rest : List (List UInt8)} {row : List UInt8} {matched : Nat} :
    row :: rest = expected.drop matched ↔
      expected[matched]? = some row ∧ rest = expected.drop (matched + 1) := by
  rw [← List.head?_drop, ← List.tail_drop]
  cases expected.drop matched with
  | nil => simp
  | cons first others => simp [eq_comm]

theorem checkLine_ok {expected : List (List UInt8)} {line : List UInt8} {matched count : Nat}
    (short : line.length ≤ 511) :
    checkLine expected line matched = .ok count ↔
      LineFine line ∧
        ([line].filterMap rowOf).filter isAuth ++ expected.drop count = expected.drop matched ∧
        count = matched + (([line].filterMap rowOf).filter isAuth).length := by
  rw [checkLine_eq expected matched short]
  by_cases continued : 0x5c ∈ line
  · rw [if_pos continued]
    refine iff_of_false nofun fun fine => fine.1.noBackslash continued
  rw [if_neg continued]
  cases found : rowOf line with
  | none =>
    simp only [List.filterMap_cons, found, List.filterMap_nil, List.filter_nil, List.nil_append,
      List.length_nil, Nat.add_zero, Except.ok.injEq]
    constructor
    · rintro rfl
      exact ⟨⟨continued, by simp [found], by simp [found]⟩, rfl, rfl⟩
    · exact fun fine => fine.2.2.symm
  | some row =>
    simp only [List.filterMap_cons, found, List.filterMap_nil]
    by_cases plain : ∀ octet ∈ line, isBlank octet ∨ isPlain octet
    · rw [if_pos plain, judge_eq_ok]
      -- the line is fine, but for a row that is neither expected nor delegated
      have fine (delegated : isAuth row = false → isDelegated row = true) : LineFine line := by
        refine ⟨continued, fun _ => plain, fun other named => ?_⟩
        rw [found, Option.some.injEq] at named
        exact named ▸ delegated
      cases auth : isAuth row with
      | true =>
        rw [List.filter_cons_of_pos auth, List.filter_nil, List.singleton_append,
          List.length_singleton]
        constructor
        · rintro (⟨-, due, rfl⟩ | ⟨other, -, -⟩)
          · exact ⟨fine (by simp [auth]), due_cons.mpr ⟨due, rfl⟩, rfl⟩
          · cases other
        · rintro ⟨-, due, rfl⟩
          exact .inl ⟨rfl, (due_cons.mp due).1, rfl⟩
      | false =>
        rw [List.filter_cons_of_neg (by simp [auth]), List.filter_nil, List.nil_append,
          List.length_nil, Nat.add_zero]
        constructor
        · rintro (⟨other, -, -⟩ | ⟨-, delegated, rfl⟩)
          · cases other
          · exact ⟨fine fun _ => delegated, rfl, rfl⟩
        · rintro ⟨fine, -, rfl⟩
          exact .inr ⟨rfl, fine.delegated row found auth, rfl⟩
    · rw [if_neg plain]
      refine iff_of_false nofun fun fine => plain (fine.1.printable (by simp [found]))

/-- Lines that fit never make the normaliser write past its buffer. -/
theorem checkLine_inside {expected : List (List UInt8)} {line : List UInt8} {matched : Nat}
    (short : line.length ≤ 511) : checkLine expected line matched ≠ .error .overrun := by
  rw [checkLine_eq expected matched short]
  by_cases continued : 0x5c ∈ line
  · simp [continued]
  rw [if_neg continued]
  cases found : rowOf line with
  | none => simp
  | some row =>
    simp only
    by_cases plain : ∀ octet ∈ line, isBlank octet ∨ isPlain octet
    · rw [if_pos plain, judge]
      by_cases auth : isAuth row = true
      · rw [if_pos auth]
        split <;> simp
      · rw [if_neg auth]
        split <;> simp
    · rw [if_neg plain]
      simp

theorem checkLines_ok {expected lines : List (List UInt8)} {matched count : Nat}
    (short : ∀ line ∈ lines, line.length ≤ 511) :
    checkLines expected lines matched = .ok count ↔
      (∀ line ∈ lines, LineFine line) ∧
        (lines.filterMap rowOf).filter isAuth ++ expected.drop count = expected.drop matched ∧
        count = matched + ((lines.filterMap rowOf).filter isAuth).length := by
  induction lines generalizing matched with
  | nil =>
    simp only [checkLines, Except.ok.injEq, List.filterMap_nil, List.filter_nil, List.nil_append,
      List.length_nil, Nat.add_zero, List.not_mem_nil, false_implies, implies_true, true_and]
    exact ⟨fun same => ⟨by rw [same], same.symm⟩, fun same => same.2.symm⟩
  | cons line lines ih =>
    have here : line.length ≤ 511 := short line (by simp)
    have later (next : Nat) := @ih next fun line among => short line (by simp [among])
    have rows : ((line :: lines).filterMap rowOf).filter isAuth =
        ([line].filterMap rowOf).filter isAuth ++ (lines.filterMap rowOf).filter isAuth := by
      rw [← List.filter_append, ← List.filterMap_append, List.singleton_append]
    rw [rows, List.length_append, List.forall_mem_cons, List.append_assoc]
    simp only [checkLines, Except.bind]
    constructor
    · cases checked : checkLine expected line matched with
      | error stop => simp
      | ok next =>
        intro done
        obtain ⟨fine, due, counted⟩ := (checkLine_ok here).mp checked
        obtain ⟨others, rest, total⟩ := (later next).mp done
        exact ⟨⟨fine, others⟩, by rw [rest, due], by omega⟩
    · rintro ⟨⟨fine, others⟩, due, total⟩
      -- the line takes what is due of it, and the lines behind it the rest
      have dropped := congrArg (List.drop (([line].filterMap rowOf).filter isAuth).length) due
      rw [List.drop_left, List.drop_drop] at dropped
      have checked : checkLine expected line matched =
          .ok (matched + (([line].filterMap rowOf).filter isAuth).length) :=
        (checkLine_ok here).mpr ⟨fine, by rw [← dropped, due], rfl⟩
      rw [checked]
      exact (later _).mpr ⟨others, dropped, by omega⟩

/-! ## The scan and the lines -/

/-- What has been read of a line stays in front of one of the lines. -/
theorem linesFrom_begun {line : List UInt8} (rest : List UInt8) (begun : line ≠ []) :
    ∃ whole ∈ linesFrom line rest, line <+: whole := by
  induction rest generalizing line with
  | nil => exact ⟨line, by simp [linesFrom, begun], List.prefix_refl line⟩
  | cons octet rest ih =>
    by_cases ended : octet = 0x0a
    · exact ⟨line, by simp [linesFrom, ended], List.prefix_refl line⟩
    · have longer : line ++ [octet] ≠ [] := by simp
      obtain ⟨whole, among, ahead⟩ := ih longer
      refine ⟨whole, ?_, (List.prefix_append line [octet]).trans ahead⟩
      rwa [linesFrom, if_neg ended]

/-- No octet of the file is outside its lines, newlines apart. -/
theorem mem_linesFrom {octet : UInt8} (printed : octet ≠ 0x0a) (line rest : List UInt8) :
    (∃ whole ∈ linesFrom line rest, octet ∈ whole) ↔ octet ∈ line ∨ octet ∈ rest := by
  induction rest generalizing line with
  | nil =>
    by_cases none : line = []
    · simp [linesFrom, none]
    · simp [linesFrom, none]
  | cons other rest ih =>
    by_cases ended : other = 0x0a
    · have apart : octet ≠ other := by simpa [ended] using printed
      rw [linesFrom, if_pos ended]
      simp [ih, apart]
    · rw [linesFrom, if_neg ended, ih]
      simp [or_assoc]

theorem Scan.file_ok {expected : List (List UInt8)} {content : List UInt8} {scan : Scan}
    {count : Nat} (small : scan.total ≤ 65536) (few : scan.lines ≤ 256)
    (short : scan.line.length ≤ 511) :
    (Scan.file expected content scan).map Scan.matched = .ok count ↔
      scan.total + content.length ≤ 65536 ∧ 0 ∉ content ∧
        scan.lines + (linesFrom scan.line content).length ≤ 256 ∧
        (∀ line ∈ linesFrom scan.line content, line.length ≤ 511) ∧
        checkLines expected (linesFrom scan.line content) scan.matched = .ok count := by
  induction content generalizing scan with
  | nil =>
    by_cases none : scan.line = []
    · simp [Scan.file, none, linesFrom, checkLines, small, few, Except.map]
    · rw [Scan.file, if_neg none, Scan.endLine, linesFrom, if_neg none]
      by_cases many : scan.lines + 1 > 256
      · rw [if_pos many]
        refine iff_of_false nofun fun fine => ?_
        have := fine.2.2.1
        rw [List.length_singleton] at this
        omega
      · rw [if_neg many]
        have fits : scan.lines + 1 ≤ 256 := by omega
        cases checked : checkLine expected scan.line scan.matched with
        | error stop => simp [checkLines, checked, Except.bind, Except.map]
        | ok next => simp [checkLines, checked, Except.bind, Except.map, small, fits, short]
  | cons octet rest ih =>
    rw [Scan.file, Scan.octet, List.length_cons, List.mem_cons]
    by_cases refused : scan.total + 1 > 65536 ∨ octet = 0
    · rw [if_pos refused]
      refine iff_of_false nofun fun fine => ?_
      rcases refused with long | rfl
      · have := fine.1
        omega
      · exact fine.2.1 (.inl rfl)
    rw [if_neg refused]
    have noNul : octet ≠ 0 := fun same => refused (.inr same)
    have counted : scan.total + 1 + rest.length = scan.total + (rest.length + 1) := by omega
    by_cases ended : octet = 0x0a
    · rw [if_pos ended, Scan.endLine, linesFrom, if_pos ended]
      by_cases many : scan.lines + 1 > 256
      · rw [if_pos many]
        refine iff_of_false nofun fun fine => ?_
        have := fine.2.2.1
        rw [List.length_cons] at this
        omega
      · rw [if_neg many]
        have fits : scan.lines + 1 ≤ 256 := by omega
        cases checked : checkLine expected scan.line scan.matched with
        | error stop => simp [checkLines, checked, Except.bind, Except.map]
        | ok next =>
          have later := @ih ⟨[], scan.total + 1, scan.lines + 1, next⟩
            (by simp only; omega) fits (by simp)
          simp only [Except.map, Except.bind, checkLines, checked, List.forall_mem_cons,
            List.length_cons, short, true_and, noNul.symm, false_or] at later ⊢
          rw [later, counted, Nat.add_assoc, Nat.add_comm 1]
    · rw [if_neg ended, linesFrom, if_neg ended]
      by_cases full : scan.line.length = 511
      · rw [if_pos full]
        refine iff_of_false nofun fun fine => ?_
        -- the line would be one of those of the file
        have begun : scan.line ++ [octet] ≠ [] := by simp
        obtain ⟨whole, among, ahead⟩ := linesFrom_begun rest begun
        have long := ahead.length_le
        have bound := fine.2.2.2.1 whole among
        rw [List.length_append, List.length_singleton] at long
        omega
      · rw [if_neg full]
        have later := @ih { scan with total := scan.total + 1, line := scan.line ++ [octet] }
          (by simp only; omega) few (by simp; omega)
        simp only [noNul.symm, false_or, ← counted]
        exact later

/-- No scan writes past the buffer of a line. -/
theorem Scan.file_inside {expected : List (List UInt8)} {content : List UInt8} {scan : Scan}
    (short : scan.line.length ≤ 511) : Scan.file expected content scan ≠ .error .overrun := by
  have ends (scan : Scan) (short : scan.line.length ≤ 511) :
      scan.endLine expected ≠ .error .overrun := by
    rw [Scan.endLine]
    by_cases many : scan.lines + 1 > 256
    · simp [many]
    · have inside : checkLine expected scan.line scan.matched ≠ .error .overrun :=
        checkLine_inside short
      rw [if_neg many]
      cases checked : checkLine expected scan.line scan.matched with
      | error stop => simpa [Except.map, checked] using inside
      | ok next => simp [Except.map]
  induction content generalizing scan with
  | nil =>
    by_cases none : scan.line = []
    · simp [Scan.file, none]
    · rw [Scan.file, if_neg none]
      exact ends scan short
  | cons octet rest ih =>
    rw [Scan.file, Scan.octet]
    by_cases refused : scan.total + 1 > 65536 ∨ octet = 0
    · rw [if_pos refused]
      simp [Except.bind]
    rw [if_neg refused]
    by_cases ended : octet = 0x0a
    · have inside := ends { scan with total := scan.total + 1 } short
      rw [if_pos ended]
      simp only [Scan.endLine] at inside ⊢
      by_cases many : scan.lines + 1 > 256
      · simp [many, Except.bind]
      · rw [if_neg many] at inside ⊢
        cases checked : checkLine expected scan.line scan.matched with
        | error stop => simpa [Except.map, Except.bind, checked] using inside
        | ok next => exact ih (by simp)
    · rw [if_neg ended]
      by_cases full : scan.line.length = 511
      · simp [full, Except.bind]
      · rw [if_neg full]
        exact ih (by simp; omega)

/-! ## The gate -/

theorem scanContent_ok (expected : List (List UInt8)) (content : List UInt8) :
    scanContent expected content = .ok expected.length ↔
      Reviewed expected content ∧ Printable content := by
  have scanned := @Scan.file_ok expected content ⟨[], 0, 0, 0⟩ expected.length
    (by simp) (by simp) (by simp)
  have escaped := @mem_linesFrom 0x5c (by decide) [] content
  simp only [List.not_mem_nil, false_or] at escaped
  rw [scanContent, scanned]
  simp only [Nat.zero_add]
  change _ ∧ _ ∧ (linesOf content).length ≤ 256 ∧ (∀ line ∈ linesOf content, _) ∧
    checkLines expected (linesOf content) 0 = _ ↔ _
  constructor
  · rintro ⟨size, noNul, few, short, checked⟩
    obtain ⟨fine, due, -⟩ := (checkLines_ok short).mp checked
    rw [List.drop_length, List.append_nil, List.drop_zero] at due
    refine ⟨⟨size, few, short, noNul, fun escape => ?_, due, ?_⟩, ?_⟩
    · obtain ⟨line, among, inside⟩ := escaped.mpr escape
      exact (fine line among).noBackslash inside
    · intro row among other
      obtain ⟨line, inside, named⟩ := List.mem_filterMap.mp among
      exact (fine line inside).delegated row named other
    · exact fun line among => (fine line among).printable
  · rintro ⟨reviewed, printable⟩
    refine ⟨reviewed.size, reviewed.noNul, reviewed.few, reviewed.short, ?_⟩
    refine (checkLines_ok reviewed.short).mpr ⟨fun line among => ⟨?_, ?_, ?_⟩, ?_, ?_⟩
    · exact fun inside => reviewed.noBackslash (escaped.mp ⟨line, among, inside⟩)
    · exact printable line among
    · exact fun row named => reviewed.others row (List.mem_filterMap.mpr ⟨line, among, named⟩)
    · rw [List.drop_length, List.append_nil]
      exact reviewed.auths
    · have rows : ((linesOf content).filterMap rowOf).filter isAuth = expected := reviewed.auths
      rw [rows, Nat.zero_add]

/-- The gate takes a file exactly if it can be read, has the reviewed rows and no ambiguous octet
in a row; no scan leaves its buffers. -/
theorem auth_shape_exact :
    (∀ expected file, authShape file expected = true ↔
      ∃ opened, file = some opened ∧ opened.regular = true ∧ opened.size ≤ 65536 ∧
        opened.streams = true ∧ opened.reads = true ∧ opened.closes = true ∧
        Reviewed expected opened.content ∧ Printable opened.content) ∧
      (∀ expected content, scanContent expected content ≠ .error .overrun) ∧
      ∀ arguments token vendor password postlogin,
        authenticate arguments token vendor password postlogin = true ↔
          arguments = 0 ∧ token = some [] ∧ authShape vendor loginAuth = true ∧
            authShape password passwordAuth = true ∧ authShape postlogin [] = true := by
  refine ⟨fun expected file => ?_, fun expected content => ?_, fun arguments token _ _ _ => ?_⟩
  · cases file with
    | none => simp [authShape]
    | some file =>
      simp only [authShape, Option.some.injEq, exists_eq_left', ← scanContent_ok]
      cases regular : file.regular with
      | false => simp
      | true =>
        by_cases large : file.size > 65536
        · simp [large]
        · have small : file.size ≤ 65536 := by omega
          cases file.streams with
          | false => simp [small]
          | true =>
            cases scanContent expected file.content with
            | error stop => simp [small]
            | ok matched =>
              simp only [Bool.not_true, Bool.false_or, small, decide_eq_true_eq, Bool.and_eq_true,
                not_lt.mpr small, if_false, Bool.false_eq_true, decide_false, Except.ok.injEq,
                true_and, and_assoc]
              exact and_congr_right fun _ => and_comm
  · have inside := @Scan.file_inside expected content ⟨[], 0, 0, 0⟩ (by simp)
    rw [scanContent]
    cases scanned : Scan.file expected content ⟨[], 0, 0, 0⟩ with
    | error stop => simpa [Except.map, scanned] using inside
    | ok scan => simp [Except.map]
  · simp [authenticate, and_assoc]

/-- A content that ends a row with a comment. -/
def trailingComment : List UInt8 := ascii "account required pam_unix.so # local\n"

/-- A row whose module may be missing. -/
def hyphenated : List UInt8 := ascii "-session optional x\n"

/-- A row that begins with one of the three words. -/
def beginsWithWord (row : List UInt8) : Bool :=
  (ascii "account").isPrefixOf row || (ascii "password").isPrefixOf row ||
    (ascii "session").isPrefixOf row

/-- A comment behind a row is refused, though all rows are reviewed ones; and a row is accepted
that has a hyphen before the word. -/
theorem comment_refused_hyphen_accepted :
    (Reviewed [] trailingComment ∧
      authShape (some ⟨true, trailingComment.length, trailingComment, true, true, true⟩) [] =
        false) ∧
    authShape (some ⟨true, hyphenated.length, hyphenated, true, true, true⟩) [] = true ∧
      ∃ row ∈ rowsOf hyphenated, isAuth row = false ∧ beginsWithWord row = false := by
  refine ⟨⟨⟨?_, ?_, ?_, ?_, ?_, ?_, ?_⟩, ?_⟩, ?_, ?_⟩ <;> decide +kernel

end Goodix.Deployment.LoginGate
