import LineEditor.Proofs.Session.Program

/-!
# Requests to the terminal

What a program asks of the terminal stays in the history, so the history only grows, and the requests
that a program has made are those that it has added.  `TerminalM.Asks` and `SessionM.Asks` say of a
program that it makes requests of some kind only, however the terminal replies; their rules follow the
way programs are put together, and give the requests of all that is drawn.

* Histories that grow (`History.Grows`), and what they have grown by (`History.requestsSince`).
* Programs on a terminal (`TerminalM.Asks`).
* Programs on a session (`SessionM.Asks`), and what those make that show the input: `asks_screen` says
  that to know the rows only the width is asked for, `asks_draw` and its kin that drawing never rings
  the bell.
-/

namespace LineEditor

/-! ## Histories -/

/-- The history `h'` is left of `h` after requests that all fulfil `P`. -/
def History.Grows (P : Request → Prop) (h h' : History) : Prop :=
  ∃ exchanges, h' = h ++ exchanges ∧ ∀ exchange ∈ exchanges, P exchange.request

namespace History

/-- The requests that the history `h'` has more than `h`, of which it is left. -/
def requestsSince (h h' : History) : List Request :=
  (h'.drop h.length).map Exchange.request

variable {P Q : Request → Prop} {h h' h'' : History}

theorem Grows.refl (P : Request → Prop) (h : History) : h.Grows P h :=
  ⟨[], (List.append_nil h).symm, fun _ hmem => absurd hmem List.not_mem_nil⟩

theorem Grows.trans (hh : h.Grows P h') (hh' : h'.Grows P h'') : h.Grows P h'' := by
  obtain ⟨earlier, rfl, hearlier⟩ := hh
  obtain ⟨later, rfl, hlater⟩ := hh'
  refine ⟨earlier ++ later, List.append_assoc h earlier later, fun exchange hmem => ?_⟩
  rcases List.mem_append.1 hmem with hmem | hmem
  · exact hearlier exchange hmem
  · exact hlater exchange hmem

theorem Grows.mono (hh : h.Grows P h') (hPQ : ∀ request, P request → Q request) : h.Grows Q h' := by
  obtain ⟨exchanges, heq, hexchanges⟩ := hh
  exact ⟨exchanges, heq, fun exchange hmem => hPQ _ (hexchanges exchange hmem)⟩

theorem grows_concat {exchange : Exchange} (hP : P exchange.request) (h : History) :
    h.Grows P (h ++ [exchange]) := by
  refine ⟨[exchange], rfl, fun other hmem => ?_⟩
  rw [List.mem_singleton.1 hmem]
  exact hP

end History

/-! ## Programs on a terminal -/

namespace TerminalM

variable {α β : Type} {P : Request → Prop}

/-- Whatever it is replied, the program makes only requests that fulfil `P`. -/
def Asks (P : Request → Prop) (program : TerminalM α) : Prop :=
  ∀ terminal (history : History), history.Grows P (program terminal history).2

theorem bind_apply (program : TerminalM α) (f : α → TerminalM β) (terminal : Terminal)
    (history : History) :
    (program >>= f) terminal history = match program terminal history with
      | (.ok a, history') => f a terminal history'
      | (.error e, history') => (.error e, history') := by
  show (ExceptT.bindCont (fun a => f a terminal) (program terminal history).1)
    (program terminal history).2 = _
  rcases program terminal history with ⟨_ | _, _⟩ <;> rfl

theorem tryCatch_apply (program : TerminalM α) (handler : TerminalError → TerminalM α)
    (terminal : Terminal) (history : History) :
    (tryCatch program handler) terminal history = match program terminal history with
      | (.ok a, history') => (.ok a, history')
      | (.error e, history') => handler e terminal history' := by
  show ExceptT.tryCatch (program terminal) (fun e => handler e terminal) history = _
  rcases hrun : program terminal history with ⟨e | a, history'⟩
  · simp only [ExceptT.tryCatch, ExceptT.mk, bind, StateT.bind, hrun]
  · simp only [ExceptT.tryCatch, ExceptT.mk, bind, StateT.bind, hrun]
    rfl

theorem asks_pure (a : α) : Asks P (pure a) :=
  fun _ history => .refl P history

theorem asks_throw (e : TerminalError) : Asks P (throw e : TerminalM α) :=
  fun _ history => .refl P history

theorem Asks.bind {program : TerminalM α} {f : α → TerminalM β} (h : Asks P program)
    (hf : ∀ a, Asks P (f a)) : Asks P (program >>= f) := by
  intro terminal history
  have hgrows := h terminal history
  rw [bind_apply]
  rcases hrun : program terminal history with ⟨e | a, history'⟩
  · rw [hrun] at hgrows
    exact hgrows
  · rw [hrun] at hgrows
    exact hgrows.trans (hf a terminal history')

theorem Asks.tryCatch {program : TerminalM α} {handler : TerminalError → TerminalM α}
    (h : Asks P program) (hhandler : ∀ e, Asks P (handler e)) :
    Asks P (tryCatch program handler) := by
  intro terminal history
  have hgrows := h terminal history
  rw [tryCatch_apply]
  rcases hrun : program terminal history with ⟨e | a, history'⟩
  · rw [hrun] at hgrows
    exact hgrows.trans (hhandler e terminal history')
  · rw [hrun] at hgrows
    exact hgrows

/-- A request stays in the history also if it fails. -/
theorem request_apply (r : Request) (terminal : Terminal) (history : History) :
    request r terminal history =
      (match (terminal.reply history.length r).failure? with
        | some reason => .error (.io reason)
        | none => .ok (),
        history ++ [{ request := r, reply := terminal.reply history.length r }]) := by
  show (match (terminal.reply history.length r).failure? with
    | some reason => throw (.io reason)
    | none => pure () : TerminalM Unit) terminal _ = _
  cases (terminal.reply history.length r).failure? <;> rfl

/-- The width that is told is the one that the terminal has when it is asked. -/
theorem askWidth_apply (terminal : Terminal) (history : History) :
    askWidth terminal history =
      ((request .width terminal history).1.map fun _ => terminal.width history.length,
        (request .width terminal history).2) := by
  show (request .width >>= fun _ => pure (terminal.width history.length)) terminal history = _
  rw [bind_apply]
  rcases request .width terminal history with ⟨_ | _, _⟩ <;> rfl

/-- An update that can be begun gives what its body gives, and its end is asked for in any case. -/
theorem atomically_apply (body : TerminalM α) (terminal : Terminal) (history : History) :
    atomically body terminal history = match request .beginUpdate terminal history with
      | (.ok _, history') =>
        ((body terminal history').1,
          (request .endUpdate terminal (body terminal history').2).2)
      | (.error e, history') => (.error e, history') := by
  unfold atomically
  rw [bind_apply]
  rcases request .beginUpdate terminal history with ⟨e | _, history'⟩
  · rfl
  dsimp only
  rw [bind_apply, tryCatch_apply, ← bind_pure_comp, bind_apply]
  rcases body terminal history' with ⟨e | a, history''⟩
  · dsimp only
    show ((tryCatch (request .endUpdate) fun _ => pure ()) >>= fun _ => throw e) terminal _ = _
    rw [bind_apply, tryCatch_apply]
    rcases request .endUpdate terminal history'' with ⟨_ | _, _⟩ <;> rfl
  · dsimp only
    show ((tryCatch (request .endUpdate) fun _ => pure ()) >>= fun _ => pure a) terminal _ = _
    rw [bind_apply, tryCatch_apply]
    rcases request .endUpdate terminal history'' with ⟨_ | _, _⟩ <;> rfl

theorem asks_request {r : Request} (hr : P r) : Asks P (request r) := by
  intro terminal history
  rw [request_apply]
  exact History.grows_concat hr history

theorem asks_askWidth (hwidth : P .width) : Asks P askWidth := by
  have hread : Asks P read := fun _ history => .refl P history
  have hget : Asks P get := fun _ history => .refl P history
  exact hread.bind fun terminal => hget.bind fun history =>
    (asks_request hwidth).bind fun _ => asks_pure _

theorem Asks.mono {Q : Request → Prop} {program : TerminalM α} (h : Asks P program)
    (hPQ : ∀ request, P request → Q request) : Asks Q program :=
  fun terminal history => (h terminal history).mono hPQ

/-- An update asks for its beginning, for what is done within it, and for its end. -/
theorem Asks.atomically {program : TerminalM α} (h : Asks P program) (hbegin : P .beginUpdate)
    (hend : P .endUpdate) : Asks P (atomically program) := by
  unfold TerminalM.atomically
  refine (asks_request hbegin).bind fun _ => ?_
  refine Asks.bind (Asks.tryCatch ?_ fun e => asks_pure _) fun result => ?_
  · rw [← bind_pure_comp]
    exact h.bind fun a => asks_pure _
  refine Asks.bind (Asks.tryCatch (asks_request hend) fun _ => asks_pure _) fun _ => ?_
  cases result with
  | ok a => exact asks_pure a
  | error e => exact asks_throw e

/-- Drawing rows is one write, or nothing. -/
theorem asks_draw (hwrite : ∀ commands, P (.write commands)) (rows : List Row) (style : DrawStyle) :
    Asks P (draw rows style) := by
  unfold draw
  split
  · exact asks_pure _
  · exact (asks_request (hwrite _)).bind fun _ => asks_pure _

end TerminalM

/-! ## Programs on a session -/

namespace SessionM

variable {α β : Type} {P : Request → Prop}

/-- However the terminal replies, the program makes only requests that fulfil `P`. -/
def Asks (P : Request → Prop) (x : SessionM α) : Prop :=
  ∀ terminal (s : Session), s.history.Grows P (x terminal s).2.history

theorem asks_pure (a : α) : Asks P (pure a) :=
  fun _ s => .refl P s.history

theorem asks_get : Asks P get :=
  fun _ s => .refl P s.history

theorem asks_modify {f : Session → Session} (h : ∀ s, (f s).history = s.history) :
    Asks P (modify f) := by
  intro terminal s
  show s.history.Grows P (f s).history
  rw [h s]
  exact .refl P s.history

theorem asks_onTerminal {program : TerminalM α} (h : program.Asks P) :
    Asks P (onTerminal program) :=
  fun terminal s => h terminal s.history

theorem asks_request {r : Request} (hr : P r) : Asks P (request r) :=
  asks_onTerminal (TerminalM.asks_request hr)

theorem Asks.bind {x : SessionM α} {f : α → SessionM β} (hx : Asks P x) (hf : ∀ a, Asks P (f a)) :
    Asks P (x >>= f) := by
  intro terminal s
  have hgrows := hx terminal s
  rw [bind_apply]
  rcases hrun : x terminal s with ⟨e | a, s'⟩
  · rw [hrun] at hgrows
    exact hgrows
  · rw [hrun] at hgrows
    exact hgrows.trans (hf a terminal s')

theorem Asks.modify_bind {g : Session → Session} {f : PUnit → SessionM β}
    (hg : ∀ s, (g s).history = s.history) (hf : Asks P (f ⟨⟩)) : Asks P (modify g >>= f) :=
  (asks_modify hg).bind fun _ => hf

theorem Asks.ite {c : Prop} [Decidable c] {x y : SessionM α} (hx : Asks P x) (hy : Asks P y) :
    Asks P (if c then x else y) := by
  split
  · exact hx
  · exact hy

theorem Asks.mono {Q : Request → Prop} {x : SessionM α} (hx : Asks P x)
    (hPQ : ∀ request, P request → Q request) : Asks Q x :=
  fun terminal s => (hx terminal s).mono hPQ

/-- To know the rows at most the width is asked for. -/
theorem asks_screen (hwidth : P .width) : Asks P screen := by
  have hensure : Asks P ensureWidth := by
    refine asks_get.bind fun s => .ite ?_ (asks_pure _)
    exact (asks_onTerminal (TerminalM.asks_askWidth hwidth)).bind fun _ => asks_modify fun _ => rfl
  exact hensure.bind fun _ => asks_get.bind fun _ => asks_pure _

theorem asks_draw (hbell : ∀ request, request ≠ .beep → P request) (clearFirst : Bool) :
    Asks P (draw clearFirst) := by
  refine (asks_screen (hbell _ nofun)).bind fun rows => asks_get.bind fun s => ?_
  have hrows : ∀ style, (LineEditor.draw rows style).Asks P :=
    TerminalM.asks_draw (fun commands => hbell _ nofun) rows
  refine Asks.bind (asks_onTerminal (.atomically ?_ (hbell _ nofun) (hbell _ nofun))) fun _ =>
    asks_modify fun _ => rfl
  cases clearFirst with
  | true => exact (TerminalM.asks_request (hbell .clear nofun)).bind fun _ => hrows _
  | false => exact hrows _

end SessionM

end LineEditor
