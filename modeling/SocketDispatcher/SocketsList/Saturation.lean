import SocketDispatcher.Evolution
import SocketDispatcher.Mydisp.Rules

/-!
# Full lists

Both {lit}`putSocket` and {lit}`delSocket` begin with a test for a full list.  The first
one has to; the second one has the effect that a list that is full once stays as it is.

Main results:

- Theorem {lit}`full_list_stays`: in every run of either program, once the sockets list is
  full, it holds the same sockets at every later moment.
- Theorem {lit}`nine_clients_stay`: a run in which the list of the dispatcher is full.
-/

namespace SocketDispatcher

open Interaction

/-- The later list is the same if the earlier one is full. -/
def SocketsList.Saturated {α : Type} (list list' : SocketsList α) : Prop :=
  list.sockets.length = list.maxSize → list' = list

/-- What holds of the sockets lists of two memories, the earlier and the later one. -/
def Saturates (m m' : Memory) : Prop :=
  m.socketsList.Saturated m'.socketsList

theorem Saturates.refl (m : Memory) : Saturates m m :=
  fun _ => rfl

theorem Saturates.trans {m m' m'' : Memory} (h : Saturates m m') (h' : Saturates m' m'') :
    Saturates m m'' := by
  intro hfull
  have hsame : m'.socketsList = m.socketsList := h hfull
  have hfull' : m'.socketsList.sockets.length = m'.socketsList.maxSize := by
    rw [hsame]
    exact hfull
  exact (h' hfull').trans hsame

theorem SocketsList.saturated_putSocket {α : Type} (list : SocketsList α) (socket : α) :
    list.Saturated (list.putSocket socket).1 := by
  intro hfull
  rw [SocketsList.putSocket, dif_pos hfull]

theorem SocketsList.saturated_delSocket {α : Type} (descriptor : α → Int)
    (list : SocketsList α) (d : Int) :
    list.Saturated (SocketsList.delSocket descriptor list d).1 := by
  intro hfull
  rw [SocketsList.delSocket, if_pos hfull]

theorem enduring_saturates : Enduring Saturates where
  same _ _ hlist _ := fun _ => hlist
  putSocket m p := m.socketsList.saturated_putSocket p
  delSocket m d := SocketsList.saturated_delSocket m.descriptorOf m.socketsList d

/-! ## Whole runs -/

/-- Either program, from any memory and in any surroundings: once the sockets list is full,
it holds the same sockets at every later moment of the run. -/
theorem full_list_stays {W A : Type} {K : Kernel W Call Reply A}
    {H : Memory → W → Call → Reply → Prop} {fuel n : Nat} {p : Proc Unit}
    (hp : p = Mydisp.mainLoop Mydisp.unixSocket fuel n ∨ p = Mylsnr.main n)
    {m : Memory} {w : W} {cfg cfg' : Config Memory W Call Reply Unit}
    (hearlier : Reaches K H ⟨m, w, p⟩ cfg)
    (hfull : cfg.memory.socketsList.sockets.length = cfg.memory.socketsList.maxSize)
    (hlater : Reaches K H cfg cfg') :
    cfg'.memory.socketsList = cfg.memory.socketsList := by
  have hevolves : Evolves Saturates p := by
    rcases hp with rfl | rfl
    · have hcreates : Creates Saturates := creates_of_ssl fun m ssl _ => rfl
      exact Mydisp.evolves_mainLoop enduring_saturates hcreates Mydisp.unixSocket fuel n
    · exact Mylsnr.evolves_main enduring_saturates n
  exact hevolves.reaches Saturates.refl (fun _ _ _ => Saturates.trans) hearlier hlater hfull

/-- After the configuration the UNIX socket and nine clients fill the list of the dispatcher;
then the first client hangs up. -/
theorem nine_clients_stay :
    ∃ cfg cfg' : Config Memory Unit Call Reply Unit,
      Reaches oblivious anyReply
        ⟨Mydisp.started 3, (), Mydisp.mainLoop Mydisp.unixSocket 1 11⟩ cfg ∧
      Reaches oblivious anyReply cfg cfg' ∧ cfg.memory.socketsList.sockets.length = 10 ∧
      cfg'.memory.socketsList = cfg.memory.socketsList := by
  let start : Config Memory Unit Call Reply Unit :=
    ⟨Mydisp.started 3, (), Mydisp.mainLoop Mydisp.unixSocket 1 11⟩
  let arrivals : List (Empty ⊕ Reply) :=
    Mydisp.configured true Mydisp.configuration ++ Mydisp.arrival true 4 ++
      [5, 6, 7, 8, 9, 10, 11, 12].flatMap (Mydisp.arrival false)
  let hangUp : List (Empty ⊕ Reply) :=
    [.inr {}, .inr { ret := 1, revents := [NO_EVENTS, POLLHUP] }, .inr {}, .inr {}]
  have hfull : (exec oblivious start arrivals).map (fun cfg =>
      (cfg.memory.socketsList.sockets.length, cfg.memory.socketsList.maxSize)) =
        some (10, 10) := by
    decide
  have hlater : (exec oblivious start (arrivals ++ hangUp)).isSome = true := by decide
  obtain ⟨cfg, hearlier, hsize⟩ := Option.map_eq_some_iff.mp hfull
  rw [exec_append, hearlier, Option.bind_some] at hlater
  obtain ⟨cfg', hlater⟩ := Option.isSome_iff_exists.mp hlater
  obtain ⟨hlength, hmax⟩ := Prod.mk.inj hsize
  have hreaches := reaches_of_exec hearlier
  have hreaches' := reaches_of_exec hlater
  refine ⟨cfg, cfg', hreaches, hreaches', hlength, ?_⟩
  exact full_list_stays (Or.inl rfl) hreaches (hlength.trans hmax.symm) hreaches'

end SocketDispatcher
