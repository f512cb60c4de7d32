import SocketDispatcher.ApplicationConfig
import SocketDispatcher.Library.StableReordering

/-!
# The command line

{lit}`ApplicationConfigImpl::readCommandArguments`: the options of the command line, read
with {lit}`getopt` until one of them is rejected.  An argument list consists of pairs of an
option letter and a value.

Main results:

- Theorem {lit}`readOptions_eq`: each name is the last value of its letter before the first
  rejected letter.
- Theorem {lit}`orderFree_iff`: when the order of the options does not matter.

Current gaps:

- The usage text is not modelled; nothing reads it.
-/

namespace SocketDispatcher

open StableReordering

/-! ## Reading the options -/

inductive ApplicationType where
  | LISTENER
  | DISPATCHER
deriving DecidableEq

/-- An option letter with its value. -/
structure Argument where
  letter : Char
  value : List Byte
deriving DecidableEq

/-- The members of {lit}`ApplicationConfigImpl`. -/
structure ApplicationConfigImpl extends ApplicationConfig where
  applicationType : ApplicationType
  ok : Bool := false
  dispPath : List Byte := []
deriving DecidableEq

/-- {lit}`getopt` returns the letter of an option that the option string names, and a
question mark for any other. -/
def getopt (options : String) (arg : Argument) : Char :=
  if arg.letter ∈ options.toList ∧ arg.letter ≠ ':' then arg.letter else '?'

/-- The option string of a program. -/
def ApplicationType.options : ApplicationType → String
  | .LISTENER => "a:c:k:"
  | .DISPATCHER => "p:a:c:k:"

namespace ApplicationConfigImpl

/-- The switch over an option; there is no result when argument reading failed. -/
@[irreducible]
def setOption (cfg : ApplicationConfigImpl) (optarg : List Byte) :
    Char → Option ApplicationConfigImpl
  | 'a' => some { cfg with caFile := optarg }
  | 'c' => some { cfg with certFile := optarg }
  | 'k' => some { cfg with keyFile := optarg }
  | 'p' => some { cfg with dispPath := optarg }
  | _ => none

/-- The loop of {lit}`readCommandArguments`. -/
def readOptions (options : String) :
    ApplicationConfigImpl → List Argument → ApplicationConfigImpl
  | cfg, [] => cfg
  | cfg, arg :: args =>
      match cfg.setOption arg.value (getopt options arg) with
      | some cfg => readOptions options cfg args
      | none => cfg

/-- The verdict after the loop. -/
def verdict (cfg : ApplicationConfigImpl) : Bool :=
  !(cfg.caFile.isEmpty || cfg.certFile.isEmpty || cfg.keyFile.isEmpty) &&
    !(cfg.applicationType == .DISPATCHER && cfg.dispPath.isEmpty)

/-- {lit}`readCommandArguments(argc, argv)` -/
def readCommandArguments (cfg : ApplicationConfigImpl) (args : List Argument) :
    ApplicationConfigImpl :=
  let read := readOptions cfg.applicationType.options cfg args
  { read with ok := read.verdict }

/-- {lit}`ApplicationConfigImpl::ApplicationConfigImpl(argc, argv, applicationType)` -/
def create (args : List Argument) (applicationType : ApplicationType) : ApplicationConfigImpl :=
  readCommandArguments { applicationType := applicationType } args

end ApplicationConfigImpl

/-! ## The names that are read -/

/-- The option string names the letter. -/
def ApplicationType.accepts (applicationType : ApplicationType) (letter : Char) : Bool :=
  letter ∈ applicationType.options.toList ∧ letter ≠ ':'

/-- The options before the first rejected one. -/
def ApplicationType.read (applicationType : ApplicationType) (args : List Argument) :
    List Argument :=
  args.takeWhile fun arg => applicationType.accepts arg.letter

theorem read_cons_of_accepts {applicationType : ApplicationType} {arg : Argument}
    (h : applicationType.accepts arg.letter) (args : List Argument) :
    applicationType.read (arg :: args) = arg :: applicationType.read args :=
  List.takeWhile_cons_of_pos (p := fun arg => applicationType.accepts (Argument.letter arg)) h

theorem read_cons_of_not_accepts {applicationType : ApplicationType} {arg : Argument}
    (h : applicationType.accepts arg.letter = false) (args : List Argument) :
    applicationType.read (arg :: args) = [] :=
  List.takeWhile_cons_of_neg (by simp [h])

/-- The last value of a letter. -/
abbrev lastOption (letter : Char) (args : List Argument) (default : List Byte) : List Byte :=
  lastValue Argument.letter Argument.value letter args default

theorem getopt_of_accepts {applicationType : ApplicationType} {arg : Argument}
    (h : applicationType.accepts arg.letter) :
    getopt applicationType.options arg = arg.letter :=
  if_pos (of_decide_eq_true h)

theorem getopt_of_not_accepts {applicationType : ApplicationType} {arg : Argument}
    (h : applicationType.accepts arg.letter = false) :
    getopt applicationType.options arg = '?' :=
  if_neg (of_decide_eq_false h)

/-- The letters that both programs accept, and the one of the dispatcher alone. -/
theorem accepts_iff (applicationType : ApplicationType) (letter : Char) :
    applicationType.accepts letter ↔
      letter = 'a' ∨ letter = 'c' ∨ letter = 'k' ∨
        (letter = 'p' ∧ applicationType = .DISPATCHER) := by
  cases applicationType with
  | LISTENER =>
      simp only [ApplicationType.accepts, ApplicationType.options]
      simp
      grind
  | DISPATCHER =>
      simp only [ApplicationType.accepts, ApplicationType.options]
      simp
      grind

namespace ApplicationConfigImpl

/-- Each name is the last value of its letter before the first rejected letter. -/
theorem readOptions_eq (applicationType : ApplicationType) (cfg : ApplicationConfigImpl)
    (args : List Argument) :
    readOptions applicationType.options cfg args =
      let args := applicationType.read args
      { cfg with
        caFile := lastOption 'a' args cfg.caFile
        certFile := lastOption 'c' args cfg.certFile
        keyFile := lastOption 'k' args cfg.keyFile
        dispPath := lastOption 'p' args cfg.dispPath } := by
  induction args generalizing cfg with
  | nil => rfl
  | cons arg args ih =>
      cases haccepts : applicationType.accepts arg.letter with
      | true =>
          rw [readOptions, getopt_of_accepts haccepts, read_cons_of_accepts haccepts]
          -- the letter decides which of the members is overridden
          rcases (accepts_iff _ _).mp haccepts with h | h | h | ⟨h, _⟩
          · simp [h, setOption, ih, lastValue_cons]
          · simp [h, setOption, ih, lastValue_cons]
          · simp [h, setOption, ih, lastValue_cons]
          · simp [h, setOption, ih, lastValue_cons]
      | false =>
          rw [readOptions, getopt_of_not_accepts haccepts, read_cons_of_not_accepts haccepts]
          simp [setOption]

/-- The three names of the listener. -/
theorem create_listener_names (args : List Argument) :
    (create args .LISTENER).toApplicationConfig =
      { caFile := lastOption 'a' (ApplicationType.LISTENER.read args) []
        certFile := lastOption 'c' (ApplicationType.LISTENER.read args) []
        keyFile := lastOption 'k' (ApplicationType.LISTENER.read args) [] } := by
  rw [create, readCommandArguments, readOptions_eq]

/-- The verdict of the listener depends on the three names only. -/
theorem create_listener_ok (args : List Argument) :
    (create args .LISTENER).ok =
      !((create args .LISTENER).caFile.isEmpty || (create args .LISTENER).certFile.isEmpty ||
        (create args .LISTENER).keyFile.isEmpty) := by
  rw [create, readCommandArguments, readOptions_eq]
  simp [verdict]

/-! ## Order -/

/-- Every stable reordering of the options gives the same verdict and the same names. -/
def OrderFree (args : List Argument) : Prop :=
  ∀ args', Reordering Argument.letter args args' →
    (create args' .LISTENER).ok = (create args .LISTENER).ok ∧
      (create args' .LISTENER).toApplicationConfig =
        (create args .LISTENER).toApplicationConfig

/-- It is enough to compare the names. -/
theorem orderFree_of_names {args : List Argument}
    (h : ∀ args', Reordering Argument.letter args args' →
      (create args' .LISTENER).toApplicationConfig =
        (create args .LISTENER).toApplicationConfig) : OrderFree args := by
  intro args' hreordering
  refine ⟨?_, h args' hreordering⟩
  rw [create_listener_ok, create_listener_ok, h args' hreordering]

/-- Without a rejected letter all options are read. -/
theorem read_of_forall {applicationType : ApplicationType} {args : List Argument}
    (h : ∀ arg ∈ args, applicationType.accepts arg.letter) : applicationType.read args = args :=
  List.takeWhile_eq_self_iff.mpr h

/-- Options that are read have been given, and their letters are accepted. -/
theorem mem_read {applicationType : ApplicationType} {args : List Argument} {arg : Argument}
    (h : arg ∈ applicationType.read args) : arg ∈ args ∧ applicationType.accepts arg.letter :=
  ⟨(List.takeWhile_prefix _).subset h,
    List.mem_takeWhile_imp (p := fun arg => applicationType.accepts (Argument.letter arg)) h⟩

/-- If every accepted option has the empty value, no name is set. -/
theorem create_of_empty {args : List Argument}
    (h : ∀ arg ∈ args, ApplicationType.LISTENER.accepts arg.letter → arg.value = []) :
    (create args .LISTENER).toApplicationConfig = {} := by
  have hlast : ∀ letter, lastOption letter (ApplicationType.LISTENER.read args) [] = [] :=
    fun letter => lastValue_of_forall fun arg harg _ => h arg (mem_read harg).1 (mem_read harg).2
  rw [create_listener_names, hlast, hlast, hlast]

/-- Options in front of the first rejected letter are read, and nothing behind them. -/
theorem read_append_rejected {applicationType : ApplicationType} {accepted rejected : List Argument}
    (haccepted : ∀ arg ∈ accepted, applicationType.accepts arg.letter)
    (hrejected : ∀ arg ∈ rejected, applicationType.accepts arg.letter = false)
    (hne : rejected ≠ []) (rest : List Argument) :
    applicationType.read (accepted ++ (rejected ++ rest)) = accepted := by
  obtain ⟨arg, rejected, rfl⟩ := List.exists_cons_of_ne_nil hne
  induction accepted with
  | nil => exact read_cons_of_not_accepts (hrejected arg List.mem_cons_self) _
  | cons first accepted ih =>
      rw [List.cons_append, read_cons_of_accepts (haccepted first List.mem_cons_self),
        ih fun arg harg => haccepted arg (List.mem_cons_of_mem _ harg)]

/-- The rejected options may be moved to any place among the accepted ones, and then just
the accepted ones before that place are read. -/
theorem exists_reordering_read (applicationType : ApplicationType) (pre post : List Argument)
    {rejected : Argument} (hrejected : rejected ∈ pre ++ post)
    (hnot : applicationType.accepts rejected.letter = false) :
    ∃ args', Reordering Argument.letter (pre ++ post) args' ∧
      applicationType.read args' =
        pre.filter fun arg => applicationType.accepts arg.letter := by
  refine ⟨pre.filter (fun arg => applicationType.accepts arg.letter) ++
    ((pre ++ post).filter (fun arg => !applicationType.accepts arg.letter) ++
      post.filter fun arg => applicationType.accepts arg.letter), ?_, ?_⟩
  · apply reordering_of_partition (q := applicationType.accepts)
    · simp [List.filter_append, List.filter_filter]
    · simp [List.filter_append, List.filter_filter]
  · apply read_append_rejected
    · intro arg harg
      exact (List.mem_filter.mp harg).2
    · intro arg harg
      simpa using (List.mem_filter.mp harg).2
    · have hmem : rejected ∈
          (pre ++ post).filter fun arg => !applicationType.accepts arg.letter := by
        rw [List.mem_filter]
        exact ⟨hrejected, by simp [hnot]⟩
      exact List.ne_nil_of_mem hmem

/-- If the order does not matter and a letter is rejected, every accepted option has the empty
value: the rejected letters may stand in front of all options, or right behind this one. -/
theorem OrderFree.value_eq_nil {args : List Argument} (h : OrderFree args) {rejected : Argument}
    (hrejected : rejected ∈ args)
    (hnot : ApplicationType.LISTENER.accepts rejected.letter = false) {arg : Argument}
    (harg : arg ∈ args) (haccepts : ApplicationType.LISTENER.accepts arg.letter) :
    arg.value = [] := by
  obtain ⟨pre, post, rfl⟩ := List.append_of_mem harg
  have hsplit : pre ++ arg :: post = pre ++ [arg] ++ post := by simp
  rw [hsplit] at h hrejected
  obtain ⟨front, hfront, hreadFront⟩ :=
    exists_reordering_read .LISTENER [] (pre ++ [arg] ++ post) hrejected hnot
  obtain ⟨behind, hbehind, hreadBehind⟩ :=
    exists_reordering_read .LISTENER (pre ++ [arg]) post hrejected hnot
  have hnames := (h behind hbehind).2.trans (h front hfront).2.symm
  rw [create_listener_names, create_listener_names, hreadFront, hreadBehind, List.filter_append,
    List.filter_cons_of_pos (by simpa using haccepts)] at hnames
  simp only [List.filter_nil, lastValue_nil, ApplicationConfig.mk.injEq] at hnames
  rcases (accepts_iff _ _).mp haccepts with hletter | hletter | hletter | ⟨_, hletter⟩
  · exact (lastValue_append_singleton _ hletter _).symm.trans hnames.1
  · exact (lastValue_append_singleton _ hletter _).symm.trans hnames.2.1
  · exact (lastValue_append_singleton _ hletter _).symm.trans hnames.2.2
  · contradiction

/-- The order of the options does not matter exactly when no letter is rejected or every
accepted option has the empty value. -/
theorem orderFree_iff (args : List Argument) :
    OrderFree args ↔
      (∀ arg ∈ args, ApplicationType.LISTENER.accepts arg.letter) ∨
        ∀ arg ∈ args, ApplicationType.LISTENER.accepts arg.letter → arg.value = [] := by
  constructor
  · intro h
    rw [or_iff_not_imp_left]
    intro hrejected arg harg haccepts
    push Not at hrejected
    obtain ⟨rejected, hmem, hnot⟩ := hrejected
    exact h.value_eq_nil hmem (by simpa using hnot) harg haccepts
  · rintro (hall | hempty)
    · apply orderFree_of_names
      intro args' hreordering
      have hall' : ∀ arg ∈ args', ApplicationType.LISTENER.accepts arg.letter :=
        fun arg harg => hall arg (hreordering.perm.mem_iff.mpr harg)
      simp only [create_listener_names, read_of_forall hall, read_of_forall hall', lastOption,
        hreordering.lastValue_eq]
    · apply orderFree_of_names
      intro args' hreordering
      rw [create_of_empty hempty, create_of_empty]
      intro arg harg
      exact hempty arg (hreordering.perm.mem_iff.mpr harg)

/-- The command of the README, with {lit}`-p` behind the three names. -/
def readmeOptions : List Argument :=
  [⟨'a', ascii "ca-web.crt"⟩, ⟨'c', ascii "dispatcher.crt"⟩, ⟨'k', ascii "dispatcher.key"⟩,
    ⟨'p', ascii "./"⟩]

/-- If {lit}`-p` stands in front, the same options are not enough. -/
theorem readmeOptions_ordered : ¬OrderFree readmeOptions := by
  intro h
  have hrejected : (⟨'p', ascii "./"⟩ : Argument) ∈ readmeOptions := by simp [readmeOptions]
  have haccepted : (⟨'a', ascii "ca-web.crt"⟩ : Argument) ∈ readmeOptions := by
    simp [readmeOptions]
  exact absurd (h.value_eq_nil hrejected (by decide) haccepted (by decide)) (by decide)

end ApplicationConfigImpl

end SocketDispatcher
