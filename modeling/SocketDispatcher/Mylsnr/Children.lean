import SocketDispatcher.Mylsnr.Rules

/-!
# The listener's children

The surroundings of the listener as far as its dispatchers are concerned: the processes
that it has forked and not yet reaped, the connections that wait on its UNIX socket, and
what its open descriptors refer to.

Main results:

- Definition {lit}`family`: only forked children connect, each of them at most once, and
  {lit}`waitpid` reports a child only after its end.
- Theorem {lit}`act_spec`: what connecting and ending children leave alone.
- Theorems {lit}`Sound.spawn`, {lit}`Sound.seat`, {lit}`Sound.hand` and the others: one
  lemma for each thing that can happen.
-/

namespace SocketDispatcher

open Interaction

namespace Mylsnr

/-- A forked process that has not been reaped, with the number of forks before it. -/
structure Child where
  number : Nat
  pid : Int
  running : Bool
deriving DecidableEq

/-- What an open descriptor of the listener refers to. -/
inductive Description where
  /-- What was open from the start. -/
  | initial
  /-- A connection of a client; clients are counted. -/
  | client (number : Nat)
  /-- A connection of the child with this number. -/
  | dispatcher (number : Nat)
deriving DecidableEq

/-- Processes, connections and descriptors. -/
structure Family where
  forks : Nat
  unreaped : List Child
  /-- The children that have connected so far. -/
  connected : List Nat
  /-- The children whose connections wait on the UNIX socket, oldest first. -/
  backlog : List Nat
  /-- The open descriptors of the listener. -/
  table : Int → Option Description
  clients : Nat
  /-- Which client has been sent to which child that was running then. -/
  handed : List (Nat × Nat)

namespace Family

/-- The child runs. -/
def Runs (w : Family) (number : Nat) : Prop :=
  ∃ child ∈ w.unreaped, child.number = number ∧ child.running = true

instance (w : Family) (number : Nat) : Decidable (w.Runs number) :=
  inferInstanceAs (Decidable (∃ child ∈ w.unreaped, _))

/-- A new child. -/
def spawn (w : Family) (pid : Int) : Family :=
  { w with forks := w.forks + 1, unreaped := w.unreaped ++ [⟨w.forks, pid, true⟩] }

/-- The child with this pid is forgotten. -/
def reap (w : Family) (pid : Int) : Family :=
  { w with unreaped := w.unreaped.filter (·.pid ≠ pid) }

/-- A child ends. -/
def finish (w : Family) (number : Nat) : Family :=
  { w with unreaped := w.unreaped.map fun child =>
      if child.number = number then { child with running := false } else child }

/-- A child connects to the UNIX socket. -/
def connect (w : Family) (number : Nat) : Family :=
  { w with connected := number :: w.connected, backlog := w.backlog ++ [number] }

/-- A waiting connection is accepted. -/
def seat (w : Family) (number : Nat) (rest : List Nat) (d : Int) : Family :=
  { w with backlog := rest, table := Function.update w.table d (some (.dispatcher number)) }

/-- A client is accepted. -/
def welcome (w : Family) (d : Int) : Family :=
  { w with clients := w.clients + 1, table := Function.update w.table d (some (.client w.clients)) }

def close (w : Family) (d : Int) : Family :=
  { w with table := Function.update w.table d none }

/-- A descriptor is sent; it counts if a client goes to a child that runs. -/
def hand (w : Family) (fd d : Int) : Family :=
  match w.table fd, w.table d with
  | some (.dispatcher number), some (.client client) =>
      if w.Runs number then { w with handed := (client, number) :: w.handed } else w
  | _, _ => w

end Family

/-- What the children do on their own. -/
inductive Move where
  | connect (number : Nat)
  | finish (number : Nat)

/-- The surroundings of a listener whose UNIX socket has the given descriptor. -/
def family (unix : Int) : Kernel Family Call Reply Move where
  reply w c r :=
    match c with
    | .fork =>
        if r.ret ≤ 0 then some w
        else if r.ret ∈ w.unreaped.map Child.pid then none
        else some (w.spawn r.ret)
    | .waitpid =>
        if r.ret ≤ 0 then some w
        else if ∃ child ∈ w.unreaped, child.pid = r.ret ∧ child.running = false then
          some (w.reap r.ret)
        else none
    | .accept fd =>
        if r.ret < 0 then some w
        else if w.table r.ret ≠ none then none
        else if fd = unix then
          match w.backlog with
          | [] => none
          | number :: rest => some (w.seat number rest r.ret)
        else some (w.welcome r.ret)
    | .close d => some (w.close d)
    | .sendmsg fd _ (some d) => some (w.hand fd d)
    | _ => some w
  act w a :=
    match a with
    | .connect number =>
        if w.Runs number ∧ number ∉ w.connected then some (w.connect number) else none
    | .finish number => if w.Runs number then some (w.finish number) else none

/-! ## What holds of the surroundings -/

/-- The processes and connections are in order. -/
structure Sound (w : Family) : Prop where
  single : w.unreaped.length ≤ 1
  waiting : w.backlog.Nodup
  connected : ∀ number ∈ w.backlog, number ∈ w.connected
  seated : ∀ d number, w.table d = some (.dispatcher number) →
    number ∈ w.connected ∧ number ∉ w.backlog
  different : ∀ d d' number, w.table d = some (.dispatcher number) →
    w.table d' = some (.dispatcher number) → d = d'
  once : ∀ client number number', (client, number) ∈ w.handed →
    (client, number') ∈ w.handed → number = number'
  earlier : ∀ client number, (client, number) ∈ w.handed → client < w.clients

/-- The children that a client has been sent to are the one that is left. -/
def SentToLast (w : Family) (client : Nat) : Prop :=
  client < w.clients ∧ ∀ number, (client, number) ∈ w.handed →
    ∀ child ∈ w.unreaped, child.number = number

namespace Sound

variable {w : Family}

/-- Two unreaped children are the same. -/
theorem unreaped_eq (h : Sound w) {child child' : Child} (hchild : child ∈ w.unreaped)
    (hchild' : child' ∈ w.unreaped) : child = child' := by
  have hsingle := h.single
  cases hunreaped : w.unreaped with
  | nil =>
      rw [hunreaped] at hchild
      cases hchild
  | cons first rest =>
      have hrest : rest = [] := List.length_eq_zero_iff.mp (by
        rw [hunreaped, List.length_cons] at hsingle
        omega)
      rw [hunreaped, hrest, List.mem_singleton] at hchild hchild'
      rw [hchild, hchild']

theorem spawn (h : Sound w) (hnone : w.unreaped = []) (pid : Int) : Sound (w.spawn pid) :=
  ⟨by simp [Family.spawn, hnone], h.waiting, h.connected, h.seated, h.different, h.once,
    h.earlier⟩

/-- Once a child is reaped, none is left. -/
theorem reap_unreaped (h : Sound w) {pid : Int}
    (hpid : ∃ child ∈ w.unreaped, child.pid = pid) : (w.reap pid).unreaped = [] := by
  rcases hpid with ⟨child, hchild, rfl⟩
  rw [Family.reap, List.filter_eq_nil_iff]
  intro child' hchild'
  simp [h.unreaped_eq hchild' hchild]

theorem reap (h : Sound w) (pid : Int) : Sound (w.reap pid) where
  single := Nat.le_trans (List.length_filter_le _ _) h.single
  waiting := h.waiting
  connected := h.connected
  seated := h.seated
  different := h.different
  once := h.once
  earlier := h.earlier

theorem finish (h : Sound w) (number : Nat) : Sound (w.finish number) :=
  ⟨by simpa [Family.finish] using h.single, h.waiting, h.connected, h.seated, h.different,
    h.once, h.earlier⟩

theorem connect (h : Sound w) {number : Nat} (hnew : number ∉ w.connected) :
    Sound (w.connect number) where
  single := h.single
  waiting := by
    have hwaiting : number ∉ w.backlog := fun hmem => hnew (h.connected number hmem)
    rw [Family.connect, List.nodup_append]
    refine ⟨h.waiting, List.nodup_singleton _, ?_⟩
    intro a ha b hb hab
    rw [List.mem_singleton] at hb
    exact hwaiting (hb ▸ hab ▸ ha)
  connected other hother := by
    rcases List.mem_append.mp hother with hother | hother
    · exact List.mem_cons_of_mem _ (h.connected other hother)
    · rw [List.mem_singleton] at hother
      exact hother ▸ List.mem_cons_self ..
  seated d other hd := by
    obtain ⟨hconnected, hwaiting⟩ := h.seated d other hd
    refine ⟨List.mem_cons_of_mem _ hconnected, ?_⟩
    rw [Family.connect, List.mem_append, List.mem_singleton]
    rintro (hmem | rfl)
    · exact hwaiting hmem
    · exact hnew hconnected
  different := h.different
  once := h.once
  earlier := h.earlier

/-- Another table without new connections of children. -/
theorem retable (h : Sound w) {table : Int → Option Description}
    (hold : ∀ d number, table d = some (.dispatcher number) →
      w.table d = some (.dispatcher number)) : Sound { w with table := table } where
  single := h.single
  waiting := h.waiting
  connected := h.connected
  seated d number hd := h.seated d number (hold d number hd)
  different d₁ d₂ number h₁ h₂ :=
    h.different d₁ d₂ number (hold d₁ number h₁) (hold d₂ number h₂)
  once := h.once
  earlier := h.earlier

theorem close (h : Sound w) (d : Int) : Sound (w.close d) := by
  apply h.retable
  intro d' number hd'
  by_cases heq : d' = d
  · simp [heq] at hd'
  · simpa [heq] using hd'

/-- The connection of a child is its only one. -/
theorem seat (h : Sound w) {number : Nat} {rest : List Nat}
    (hbacklog : w.backlog = number :: rest) (d : Int) : Sound (w.seat number rest d) := by
  obtain ⟨hnumber, hrest⟩ := List.nodup_cons.mp (hbacklog ▸ h.waiting)
  have hfirst : number ∈ w.backlog := by simp [hbacklog]
  have hcases : ∀ d' other, (w.seat number rest d).table d' = some (.dispatcher other) →
      (d' = d ∧ other = number) ∨ (d' ≠ d ∧ w.table d' = some (.dispatcher other)) := by
    intro d' other hd'
    by_cases heq : d' = d
    · simp only [Family.seat, heq, Function.update_self, Option.some.injEq,
        Description.dispatcher.injEq] at hd'
      exact Or.inl ⟨heq, hd'.symm⟩
    · simp only [Family.seat, Function.update_of_ne heq] at hd'
      exact Or.inr ⟨heq, hd'⟩
  have hother : ∀ d', w.table d' ≠ some (.dispatcher number) :=
    fun d' hd' => (h.seated d' number hd').2 hfirst
  refine ⟨h.single, hrest, ?_, ?_, ?_, h.once, h.earlier⟩
  · exact fun other hmem => h.connected other (hbacklog ▸ List.mem_cons_of_mem _ hmem)
  · intro d' other hd'
    rcases hcases d' other hd' with ⟨_, rfl⟩ | ⟨_, hd'⟩
    · exact ⟨h.connected other hfirst, hnumber⟩
    · obtain ⟨hconnected, hwaiting⟩ := h.seated d' other hd'
      exact ⟨hconnected, fun hmem => hwaiting (hbacklog ▸ List.mem_cons_of_mem _ hmem)⟩
  · intro d₁ d₂ other h₁ h₂
    rcases hcases d₁ other h₁ with ⟨rfl, rfl⟩ | ⟨_, hold₁⟩
    · rcases hcases d₂ _ h₂ with ⟨rfl, _⟩ | ⟨_, hold₂⟩
      · rfl
      · exact absurd hold₂ (hother d₂)
    · rcases hcases d₂ other h₂ with ⟨_, rfl⟩ | ⟨_, hold₂⟩
      · exact absurd hold₁ (hother d₁)
      · exact h.different d₁ d₂ other hold₁ hold₂

theorem welcome (h : Sound w) (d : Int) : Sound (w.welcome d) := by
  have hold : ∀ d' number, (w.welcome d).table d' = some (.dispatcher number) →
      w.table d' = some (.dispatcher number) := by
    intro d' number hd'
    by_cases heq : d' = d
    · simp [Family.welcome, heq] at hd'
    · simpa [Family.welcome, heq] using hd'
  exact
    { h.retable hold with
      earlier := fun client number hmem => Nat.lt_succ_of_lt (h.earlier client number hmem) }

/-- What sending the client with this number does. -/
theorem hand (h : Sound w) {fd d : Int} {client : Nat} (hd : w.table d = some (.client client))
    (hlast : SentToLast w client) :
    Sound (w.hand fd d) ∧ SentToLast (w.hand fd d) client ∧ (w.hand fd d).table = w.table := by
  rw [Family.hand, hd]
  split
  next number client' hfd hclient =>
    obtain rfl : client = client' := by simpa using hclient
    split
    next hruns =>
      rcases hruns with ⟨child, hchild, rfl, _⟩
      have hnumber : ∀ number, (client, number) ∈ w.handed → child.number = number :=
        fun number hmem => hlast.2 number hmem child hchild
      have hcases : ∀ {client' number}, (client', number) ∈ (client, child.number) :: w.handed →
          (client' = client ∧ number = child.number) ∨ (client', number) ∈ w.handed := by
        intro client' number hmem
        simpa using hmem
      refine ⟨⟨h.single, h.waiting, h.connected, h.seated, h.different, ?_, ?_⟩, ?_, rfl⟩
      · intro client' number number' hmem hmem'
        rcases hcases hmem with ⟨rfl, rfl⟩ | hold
        · rcases hcases hmem' with ⟨_, rfl⟩ | hold'
          · rfl
          · exact hnumber number' hold'
        · rcases hcases hmem' with ⟨rfl, rfl⟩ | hold'
          · exact (hnumber number hold).symm
          · exact h.once client' number number' hold hold'
      · intro client' number hmem
        rcases hcases hmem with ⟨rfl, _⟩ | hold
        · exact hlast.1
        · exact h.earlier client' number hold
      · refine ⟨hlast.1, ?_⟩
        intro number hmem child' hchild'
        rw [h.unreaped_eq hchild' hchild]
        rcases hcases hmem with ⟨_, rfl⟩ | hold
        · rfl
        · exact hnumber number hold
    next => exact ⟨h, hlast, rfl⟩
  next => exact ⟨h, hlast, rfl⟩

end Sound

/-- A move of the children keeps the order, the descriptors, the clients and which
children are unreaped. -/
theorem act_spec {unix : Int} {w w' : Family} {a : Move} (h : (family unix).act w a = some w') :
    (Sound w → Sound w') ∧ w'.table = w.table ∧ w'.handed = w.handed ∧
      w'.clients = w.clients ∧
      w'.unreaped.map Child.number = w.unreaped.map Child.number := by
  cases a with
  | connect number =>
      simp only [family] at h
      split at h
      next hnew =>
        obtain rfl := Option.some.inj h
        exact ⟨fun hsound => hsound.connect hnew.2, rfl, rfl, rfl, rfl⟩
      next => contradiction
  | finish number =>
      simp only [family] at h
      split at h
      next =>
        obtain rfl := Option.some.inj h
        refine ⟨fun hsound => hsound.finish number, rfl, rfl, rfl, ?_⟩
        rw [Family.finish, List.map_map]
        apply List.map_congr_left
        intro child _
        simp only [Function.comp]
        split <;> rfl
      next => contradiction

/-- Children that connect or end do not make a client go to another child. -/
theorem SentToLast.act {unix : Int} {w w' : Family} {a : Move} {client : Nat}
    (h : SentToLast w client) (ha : (family unix).act w a = some w') :
    SentToLast w' client := by
  obtain ⟨_, _, hhanded, hclients, hunreaped⟩ := act_spec ha
  refine ⟨hclients ▸ h.1, ?_⟩
  intro number hmem child hchild
  have hnumber : child.number ∈ w.unreaped.map Child.number :=
    hunreaped ▸ List.mem_map_of_mem hchild
  rcases List.mem_map.mp hnumber with ⟨old, hold, heq⟩
  rw [← heq]
  exact h.2 number (hhanded ▸ hmem) old hold

end Mylsnr

end SocketDispatcher
