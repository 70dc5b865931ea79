import JavaLex.CommandLine.Options

/-! # Arguments in their order

From left to right the arguments fall into options that stand alone and options with the argument
behind them, which is their number whatever it looks like. Only the last argument can be an option
that still waits for its number. To read the arguments is to make the changes of these options one
after the other, so more arguments go on from where the earlier ones ended, unless the first of
them is the number that was waited for. Whether `--dump-tokens` stands anywhere is asked of all
arguments by the run, and is no part of this.
-/
namespace JavaLex.CommandLine

namespace NumberOption

theorem ofArgument?_spelling (option : NumberOption) :
    ofArgument? option.spelling = some option := by
  cases option <;> rfl

theorem eq_spelling_of_ofArgument? {argument : String} {option : NumberOption}
    (h : ofArgument? argument = some option) : argument = option.spelling := by
  unfold ofArgument? at h
  split at h
  case isTrue hthreads =>
    cases h
    exact hthreads
  case isFalse =>
    split at h
    case isTrue hmaxFiles =>
      cases h
      exact hmaxFiles
    case isFalse => cases h

end NumberOption

/-- What a number is printed as is read as that number. -/
theorem count?_toString {n : Nat} (h : n < Nat.pow 2 64) : count? (toString n) = some n := by
  have hdigits : (toString n).toList = Nat.toDigits 10 n := by
    rw [Nat.toString_eq_repr, Nat.toList_repr]
  have hall : (Nat.toDigits 10 n).all Char.isDigit := by
    rw [List.all_eq_true]
    exact fun c hc => Nat.isDigit_of_mem_toDigits (by decide) (by decide) hc
  have hvalue : (Nat.toDigits 10 n).foldl (fun n c => n * 10 + (c.toNat - '0'.toNat)) 0 = n := by
    simp only [Nat.mul_comm _ 10]
    exact Nat.ofDigitChars_ten_toDigits
  rw [count?, hdigits]
  cases hcons : Nat.toDigits 10 n with
  | nil => exact absurd hcons Nat.toDigits_ne_nil
  | cons c digits =>
    rw [hcons] at hall hvalue
    -- A digit comes first, so there is no sign to be dropped.
    have hsign : c ≠ '+' := by
      rintro rfl
      cases hall
    split
    case h_1 hplus => exact absurd (List.cons.inj hplus).1 hsign
    case h_2 =>
      rw [if_neg (by simp [hall]), hvalue]
      exact if_pos h

/-- An option as it is given: on its own, or with its number. -/
inductive Given where
  | flag (argument : String) (h : NumberOption.ofArgument? argument = none)
  | number (option : NumberOption) (text : String)

namespace Given

def arguments : Given → List String
  | flag argument _ => [argument]
  | number option text => [option.spelling, text]

def change (o : Options) : Given → Options × List Warning
  | flag argument _ => o.withFlag argument
  | number option text => o.withNumber option text

theorem length_arguments_pos (g : Given) : 0 < g.arguments.length := by
  cases g <;> exact Nat.succ_pos _

end Given

/-- The option at the end that waits for its number. -/
def waiting? : List String → Option NumberOption
  | [] => none
  | argument :: arguments =>
    match NumberOption.ofArgument? argument, arguments with
    | none, arguments => waiting? arguments
    | some option, [] => some option
    | some _, _ :: arguments => waiting? arguments

theorem waiting?_flag {argument : String} (h : NumberOption.ofArgument? argument = none)
    (arguments : List String) : waiting? (argument :: arguments) = waiting? arguments := by
  rw [waiting?.eq_def]
  simp only [h]

theorem waiting?_last (option : NumberOption) : waiting? [option.spelling] = some option := by
  rw [waiting?.eq_def]
  simp only [option.ofArgument?_spelling]

theorem waiting?_number (option : NumberOption) (text : String) (arguments : List String) :
    waiting? (option.spelling :: text :: arguments) = waiting? arguments := by
  rw [waiting?.eq_def]
  simp only [option.ofArgument?_spelling]

/-- The arguments that spell some options, and one more that waits for its number. -/
def spelled (given : List Given) (last? : Option NumberOption) : List String :=
  given.flatMap Given.arguments ++ last?.toList.map NumberOption.spelling

/-- Each argument belongs to one of the options given. -/
theorem exists_spelled : ∀ arguments : List String,
    ∃ given, arguments = spelled given (waiting? arguments)
  | [] => ⟨[], rfl⟩
  | argument :: arguments => by
    cases h : NumberOption.ofArgument? argument with
    | none =>
      obtain ⟨given, hgiven⟩ := exists_spelled arguments
      rw [waiting?_flag h]
      exact ⟨.flag argument h :: given, congrArg (argument :: ·) hgiven⟩
    | some option =>
      cases NumberOption.eq_spelling_of_ofArgument? h
      cases arguments with
      | nil =>
        rw [waiting?_last]
        exact ⟨[], rfl⟩
      | cons text arguments =>
        obtain ⟨given, hgiven⟩ := exists_spelled arguments
        rw [waiting?_number]
        exact ⟨.number option text :: given, congrArg (option.spelling :: text :: ·) hgiven⟩

namespace Reading
variable {arguments before rest : List String} {r : Reading}

/-- Go on with an option given. -/
def take (r : Reading) (g : Given) : Reading :=
  r.advance g.arguments.length (g.change r.options)

/-- Go on with an option that lacks its number, if there is one. -/
def lack (r : Reading) : Option NumberOption → Reading
  | none => r
  | some option => r.advance 1 (r.options, [.missing option])

/-- Go on with what came of the arguments behind. -/
def andThen (r s : Reading) : Reading :=
  { options := s.options, next := r.next + s.next, warnings := r.warnings ++ s.warnings }

/-! ## One step -/

theorem step_eq_take (hnext : r.next = before.length) (g : Given)
    (h : r.next < (before ++ (g.arguments ++ rest)).length) :
    r.step (before ++ (g.arguments ++ rest)) h = r.take g := by
  cases g with
  | flag argument hargument => simp [step, take, Given.arguments, Given.change, hnext, hargument]
  | number option text =>
    simp [step, take, Given.arguments, Given.change, hnext, option.ofArgument?_spelling]

/-- Behind the last argument there is no number. -/
theorem step_eq_lack (hnext : r.next = before.length) (option : NumberOption)
    (h : r.next < (before ++ [option.spelling]).length) :
    r.step (before ++ [option.spelling]) h = r.lack (some option) := by
  simp [step, lack, hnext, option.ofArgument?_spelling]

/-! ## All steps -/

theorem finish_of_lt (h : r.next < arguments.length) :
    r.finish arguments = (r.step arguments h).finish arguments := by
  rw [finish, dif_pos h]

theorem finish_of_le (h : arguments.length ≤ r.next) : r.finish arguments = r := by
  rw [finish, dif_neg (Nat.not_lt.mpr h)]

theorem finish_take (hnext : r.next = before.length) (g : Given) :
    r.finish (before ++ (g.arguments ++ rest)) =
      (r.take g).finish (before ++ (g.arguments ++ rest)) := by
  have hlt : r.next < (before ++ (g.arguments ++ rest)).length := by
    have hpos := g.length_arguments_pos
    rw [List.length_append, List.length_append]
    omega
  rw [finish_of_lt hlt, step_eq_take hnext]

theorem finish_lack (hnext : r.next = before.length) (last? : Option NumberOption) :
    r.finish (before ++ last?.toList.map NumberOption.spelling) = r.lack last? := by
  cases last? with
  | none => exact finish_of_le (by simp [hnext])
  | some option =>
    have hlt : r.next < (before ++ [option.spelling]).length := by simp [hnext]
    have hend : (before ++ [option.spelling]).length ≤ (r.lack (some option)).next := by
      simp [lack, advance, hnext]
    calc
      r.finish (before ++ [option.spelling])
        = (r.lack (some option)).finish (before ++ [option.spelling]) := by
          rw [finish_of_lt hlt, step_eq_lack hnext]
      _ = r.lack (some option) := finish_of_le hend

theorem next_foldl_take (given : List Given) (r : Reading) :
    (given.foldl take r).next = r.next + (given.flatMap Given.arguments).length := by
  induction given generalizing r with
  | nil => rfl
  | cons g given ih =>
    rw [List.foldl_cons, ih, List.flatMap_cons, List.length_append, ← Nat.add_assoc]
    rfl

theorem finish_foldl_take (given : List Given) (hnext : r.next = before.length) :
    r.finish (before ++ (given.flatMap Given.arguments ++ rest)) =
      (given.foldl take r).finish (before ++ (given.flatMap Given.arguments ++ rest)) := by
  induction given generalizing before r with
  | nil => rfl
  | cons g given ih =>
    have hnext' : (r.take g).next = (before ++ g.arguments).length := by
      rw [List.length_append, ← hnext]
      rfl
    rw [List.flatMap_cons, List.append_assoc, finish_take hnext, ← List.append_assoc,
      ih hnext', List.foldl_cons]

/-- What is read is the options given, one after the other. -/
theorem read_spelled (o : Options) (given : List Given) (last? : Option NumberOption) :
    o.read (spelled given last?) = (given.foldl take { options := o }).lack last? := by
  let start : Reading := { options := o }
  have hfold : start.finish ([] ++ spelled given last?) =
      (given.foldl take start).finish ([] ++ spelled given last?) :=
    finish_foldl_take given rfl
  have hnext : (given.foldl take start).next = (given.flatMap Given.arguments).length := by
    rw [next_foldl_take]
    exact Nat.zero_add _
  exact hfold.trans (finish_lack hnext last?)

theorem take_eq_andThen (r : Reading) (g : Given) :
    r.take g = r.andThen ({ options := r.options : Reading }.take g) := by
  simp [take, advance, andThen]

theorem andThen_assoc (r s t : Reading) : (r.andThen s).andThen t = r.andThen (s.andThen t) := by
  simp [andThen, Nat.add_assoc]

theorem lack_andThen (r s : Reading) (last? : Option NumberOption) :
    (r.andThen s).lack last? = r.andThen (s.lack last?) := by
  cases last? with
  | none => rfl
  | some option => simp [lack, advance, andThen, Nat.add_assoc]

/-- Of what was read before only the options matter. -/
theorem foldl_take (given : List Given) (r : Reading) :
    given.foldl take r = r.andThen (given.foldl take { options := r.options }) := by
  induction given generalizing r with
  | nil => simp [andThen]
  | cons g given ih =>
    rw [List.foldl_cons, List.foldl_cons, ih, ih ({ options := r.options : Reading }.take g),
      ← andThen_assoc, ← take_eq_andThen]
    rfl

end Reading

namespace Options
variable {o : Options}

/-! ## Threads -/

/-- There is a thread, and there are no more than can be asked for. -/
structure ThreadsInRange (o : Options) : Prop where
  pos : 1 ≤ o.batch.threads
  le : o.batch.threads ≤ maxThreads

theorem ThreadsInRange.withFlag (h : ThreadsInRange o) (argument : String) :
    ThreadsInRange (o.withFlag argument).1 := by
  unfold Options.withFlag
  split
  case h_1 => exact ⟨Nat.le_refl 1, Nat.le_of_ble_eq_true rfl⟩
  all_goals exact ⟨h.pos, h.le⟩

theorem ThreadsInRange.withNumber (h : ThreadsInRange o) (option : NumberOption) (text : String) :
    ThreadsInRange (o.withNumber option text).1 := by
  unfold Options.withNumber
  split
  · exact h
  · cases option with
    | threads => exact ⟨Nat.le_max_left _ _, Nat.max_le.mpr ⟨by decide, Nat.min_le_left _ _⟩⟩
    | maxFiles => exact ⟨h.pos, h.le⟩

theorem ThreadsInRange.foldl_take {r : Reading} (h : ThreadsInRange r.options)
    (given : List Given) : ThreadsInRange (given.foldl Reading.take r).options := by
  induction given generalizing r with
  | nil => exact h
  | cons g given ih =>
    refine ih ?_
    cases g with
    | flag argument hargument => exact h.withFlag argument
    | number option text => exact h.withNumber option text

/-! ## The whole -/

/-- Every argument is read once, as an option or as the number of the one before it. -/
theorem exists_given (arguments : List String) :
    ∃ given, arguments = spelled given (waiting? arguments) ∧ ∀ o : Options,
      o.read arguments = (given.foldl Reading.take { options := o }).lack (waiting? arguments) := by
  obtain ⟨given, hgiven⟩ := exists_spelled arguments
  exact ⟨given, hgiven, fun o => (congrArg o.read hgiven).trans (Reading.read_spelled o given _)⟩

theorem read_append {arguments : List String} (h : waiting? arguments = none) (o : Options)
    (more : List String) :
    o.read (arguments ++ more) =
      (o.read arguments).andThen ((o.read arguments).options.read more) := by
  obtain ⟨given, hgiven, hread⟩ := exists_given arguments
  obtain ⟨later, hlater, hmore⟩ := exists_given more
  rw [h] at hgiven hread
  have hall : arguments ++ more = spelled (given ++ later) (waiting? more) := by
    calc
      arguments ++ more = spelled given none ++ spelled later (waiting? more) := by
        rw [← hgiven, ← hlater]
      _ = spelled (given ++ later) (waiting? more) := by
        simp [spelled]
  rw [hall, Reading.read_spelled, List.foldl_append, Reading.foldl_take later,
    Reading.lack_andThen, ← hmore, hread]
  rfl

theorem read_number (o : Options) (option : NumberOption) (text : String) :
    o.read [option.spelling, text] = { options := o : Reading }.take (.number option text) :=
  Reading.read_spelled o [.number option text] none

example : (read { batch := { threads := 8 } } ["--threads", "--json"]).warnings =
    [.invalid .threads "--json"] := by
  cbv

theorem next_read (o : Options) (arguments : List String) :
    (o.read arguments).next = arguments.length := by
  obtain ⟨given, hgiven, hread⟩ := exists_given arguments
  rw [hread]
  conv => rhs; rw [hgiven]
  cases waiting? arguments with
  | none => simp [Reading.lack, Reading.next_foldl_take, spelled]
  | some option => simp [Reading.lack, Reading.advance, Reading.next_foldl_take, spelled]

theorem ThreadsInRange.read (h : ThreadsInRange o) (arguments : List String) :
    ThreadsInRange (o.read arguments).options := by
  obtain ⟨given, -, hread⟩ := exists_given arguments
  have hfold : ThreadsInRange (given.foldl Reading.take { options := o }).options :=
    h.foldl_take given
  rw [hread]
  cases waiting? arguments with
  | none => exact hfold
  | some option => exact hfold

/-- What a reading `r` of arguments on top of the options `o` comes to. -/
structure ReadsInOrder (o : Options) (arguments : List String) (r : Reading) : Prop where
  /-- Reading ends, and neither before nor behind the end of the arguments. -/
  next_eq : r.next = arguments.length
  /-- Every argument is read once, as an option or as the number of the one before it. -/
  folds : ∃ given, arguments = spelled given (waiting? arguments) ∧
    r = (given.foldl Reading.take { options := o }).lack (waiting? arguments)
  /-- More arguments are read on top of the options that these ones end with. -/
  append : waiting? arguments = none → ∀ more,
    o.read (arguments ++ more) = r.andThen (r.options.read more)
  /-- Behind an option that takes a number stands its number, and the next option comes after. -/
  number : waiting? arguments = none → ∀ option text more,
    o.read (arguments ++ option.spelling :: text :: more) =
      (r.take (.number option text)).andThen ((r.options.withNumber option text).1.read more)
  /-- A number of threads sets the threads, within the range, and nothing else. -/
  threads_eq : waiting? arguments = none → ∀ n < Nat.pow 2 64,
    o.read (arguments ++ ["--threads", toString n]) =
      { r with
        options := { r.options with
          batch := { r.options.batch with threads := max 1 (min maxThreads n) } }
        next := r.next + 2 }
  /-- A number of files is the most that are taken, and nothing else changes. -/
  maxFiles_eq : waiting? arguments = none → ∀ n < Nat.pow 2 64,
    o.read (arguments ++ ["--max-files", toString n]) =
      { r with
        options := { r.options with batch := { r.options.batch with maxFiles? := some n } }
        next := r.next + 2 }
  /-- What is no number is only warned about. -/
  invalid_eq : waiting? arguments = none → ∀ option text, count? text = none →
    o.read (arguments ++ [option.spelling, text]) =
      { r with next := r.next + 2, warnings := r.warnings ++ [.invalid option text] }
  threads : ThreadsInRange o → ThreadsInRange r.options

theorem read_append_number {arguments : List String} (h : waiting? arguments = none) (o : Options)
    (option : NumberOption) (text : String) :
    o.read (arguments ++ [option.spelling, text]) = (o.read arguments).take (.number option text) := by
  rw [read_append h, read_number, ← Reading.take_eq_andThen]

theorem readsInOrder_read (o : Options) (arguments : List String) :
    ReadsInOrder o arguments (o.read arguments) where
  next_eq := next_read o arguments
  folds := by
    obtain ⟨given, hgiven, hread⟩ := exists_given arguments
    exact ⟨given, hgiven, hread o⟩
  append h more := read_append h o more
  number h option text more := by
    have hnumber : waiting? [option.spelling, text] = none := waiting?_number option text []
    have hmore := read_append hnumber (o.read arguments).options more
    rw [read_number] at hmore
    refine (read_append h o ([option.spelling, text] ++ more)).trans ?_
    rw [hmore, ← Reading.andThen_assoc, ← Reading.take_eq_andThen]
    rfl
  threads_eq h n hn := by
    refine (read_append_number h o .threads (toString n)).trans ?_
    rw [Reading.take, Given.change, withNumber, count?_toString hn]
    simp [Reading.advance, Given.arguments]
  maxFiles_eq h n hn := by
    refine (read_append_number h o .maxFiles (toString n)).trans ?_
    rw [Reading.take, Given.change, withNumber, count?_toString hn]
    simp [Reading.advance, Given.arguments]
  invalid_eq h option text hnone := by
    rw [read_append_number h, Reading.take, Given.change, withNumber, hnone]
    rfl
  threads h := h.read arguments

/-- Options that stand where numbers belong. -/
def numbersLikeOptions : List String :=
  ["--threads", "--max-files", "--max-files", "--threads"]

/-- Nothing comes of them, and the numbers after them are read as such. -/
theorem readsInOrder_read_numbersLikeOptions :
    waiting? numbersLikeOptions = none ∧
      read { batch := { threads := 8 } } (numbersLikeOptions ++ ["--threads", "4"]) =
        (read { batch := { threads := 8 } } numbersLikeOptions).andThen
          ((read { batch := { threads := 8 } } numbersLikeOptions).options.read
            ["--threads", "4"]) ∧
      (read { batch := { threads := 8 } } ["--threads", "4", "--max-files", "7"]).options =
        { batch := { threads := 4, maxFiles? := some 7 } } := by
  let o : Options := { batch := { threads := 8 } }
  have hthreads := (readsInOrder_read o []).threads_eq rfl 4 (by decide)
  have hmaxFiles := (readsInOrder_read o ["--threads", "4"]).maxFiles_eq rfl 7 (by decide)
  refine ⟨rfl, (readsInOrder_read o numbersLikeOptions).append rfl ["--threads", "4"], ?_⟩
  have hall : (o.read ["--threads", "4", "--max-files", "7"]).options =
      { (o.read ["--threads", "4"]).options with
        batch := { (o.read ["--threads", "4"]).options.batch with maxFiles? := some 7 } } :=
    congrArg Reading.options hmaxFiles
  have hempty : o.read [] = { options := o } := Reading.read_spelled o [] none
  rw [hempty] at hthreads
  have hfirst : (o.read ["--threads", "4"]).options = { batch := { threads := 4 } } :=
    congrArg Reading.options hthreads
  rw [hall, hfirst]

end Options
end JavaLex.CommandLine
