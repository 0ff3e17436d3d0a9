import LineEditor.Proofs.Session.Calls
import LineEditor.Proofs.Session.Composition

/-!
# Updates of the screen

Rows are drawn within updates, so that a terminal can show all of a drawing at once.  An update that
was begun must be ended, whatever fails meanwhile, or the terminal holds its screen back for good.

* The state of a history.  `History.updating` says whether an update is under way, and
  `Request.InPlace` which requests may then be made; `History.InOrder` is the invariant.
* Programs on a terminal.  `TerminalM.Leads` says how a program moves between the two states, and
  `leads_atomically` that an update comes back to where it was begun, however its body ends.
* Calls.  `Composed.inOrder` carries the invariant through all programs on a session.
* The result.  `InOrder.exists_end` finds the end of an update that was begun, and
  `updates_are_bracketed` says what all this comes to for a call in any run.
-/

namespace LineEditor

/-! ## The state of a history -/

/-- Whether the request of an exchange was granted. -/
def Exchange.isGranted (x : Exchange) : Bool := x.reply.failure?.isNone

/-- Whether an update is under way after an exchange.  It is over once its end was asked for, even
if the end fails. -/
def Exchange.updatingAfter (x : Exchange) (updating : Bool) : Bool :=
  match x.request with
  | .beginUpdate => updating || x.isGranted
  | .endUpdate => false
  | _ => updating

/-- Whether an update is under way after the exchanges. -/
def History.updating (h : History) : Bool :=
  h.foldl (fun updating x => x.updatingAfter updating) false

theorem History.updating_concat (h : History) (x : Exchange) :
    History.updating (h ++ [x]) = x.updatingAfter h.updating := by
  simp [updating, List.foldl_append]

/-- The request is made where it belongs.  Within an update the screen is cleared, rows are drawn and
the update is ended; all else is done while no update is under way. -/
def Request.InPlace (updating : Bool) : Request → Prop
  | .write commands => updating = true ↔ ∃ rows style, commands = frame rows style
  | .clear | .endUpdate => updating = true
  | .beginUpdate | .beep | .width => updating = false

/-- Whether the request draws: it clears the screen, or writes rows. -/
def Request.Draws (request : Request) : Prop :=
  request = .clear ∨ ∃ rows style, request = .write (frame rows style)

namespace History

/-- All requests were made where they belong, and now an update is under way or not. -/
structure InOrder (updating : Bool) (h : History) : Prop where
  inPlace : ∀ (earlier : History) x later, h = earlier ++ x :: later →
    x.request.InPlace earlier.updating
  updating_eq : h.updating = updating

theorem inOrder_nil : InOrder false [] where
  inPlace := by
    intro earlier x later h
    simp at h
  updating_eq := rfl

theorem InOrder.concat {updating : Bool} {h : History} {x : Exchange} (hh : h.InOrder updating)
    (hx : x.request.InPlace updating) : InOrder (x.updatingAfter updating) (h ++ [x]) where
  inPlace := by
    intro earlier y later heq
    rcases List.eq_nil_or_concat later with rfl | ⟨later, z, rfl⟩
    · obtain ⟨rfl, hlast⟩ := List.append_inj' heq rfl
      obtain rfl := List.singleton_inj.1 hlast
      rw [hh.updating_eq]
      exact hx
    · rw [List.concat_eq_append, ← List.cons_append, ← List.append_assoc] at heq
      obtain ⟨hinit, -⟩ := List.append_inj' heq rfl
      exact hh.inPlace earlier y later hinit
  updating_eq := by
    rw [updating_concat, hh.updating_eq]

/-- An update that was begun is ended in the exchanges that follow if none is under way after them,
and until then nothing is done but drawing. -/
theorem InOrder.exists_end {h earlier : History} {later : List Exchange} (hh : h.InOrder false)
    (heq : h = earlier ++ later) (hupdating : earlier.updating = true) :
    ∃ body closing rest, later = body ++ closing :: rest ∧ closing.request = .endUpdate ∧
      ∀ x ∈ body, x.request.Draws := by
  induction later generalizing earlier with
  | nil =>
    have hnot := hh.updating_eq
    rw [heq, List.append_nil, hupdating] at hnot
    exact absurd hnot nofun
  | cons x later ih =>
    have hplace := hh.inPlace earlier x later heq
    rw [hupdating] at hplace
    -- only what draws leaves the update under way
    have hdraws : x.request.Draws → x.updatingAfter true = true →
        ∃ body closing rest, x :: later = body ++ closing :: rest ∧
          closing.request = .endUpdate ∧ ∀ y ∈ body, y.request.Draws := by
      intro hx hafter
      have hstill : h = (earlier ++ [x]) ++ later := by
        rw [heq, List.append_assoc, List.singleton_append]
      obtain ⟨body, closing, rest, hlater, hend, hbody⟩ :=
        ih hstill (by rw [updating_concat, hupdating, hafter])
      refine ⟨x :: body, closing, rest, by rw [hlater, List.cons_append], hend, ?_⟩
      intro y hy
      rcases List.mem_cons.1 hy with rfl | hy
      · exact hx
      · exact hbody y hy
    cases hrequest : x.request with
    | write commands =>
      rw [hrequest] at hplace
      obtain ⟨rows, style, hcommands⟩ := hplace.1 rfl
      refine hdraws (.inr ⟨rows, style, by rw [hrequest, hcommands]⟩) ?_
      simp [Exchange.updatingAfter, hrequest]
    | clear => exact hdraws (.inl hrequest) (by simp [Exchange.updatingAfter, hrequest])
    | endUpdate => exact ⟨[], x, later, rfl, hrequest, by simp⟩
    | beginUpdate =>
      rw [hrequest] at hplace
      exact absurd hplace nofun
    | beep =>
      rw [hrequest] at hplace
      exact absurd hplace nofun
    | width =>
      rw [hrequest] at hplace
      exact absurd hplace nofun

end History

/-! ## Programs on a terminal -/

namespace TerminalM

variable {α β : Type} {u v w : Bool}

/-- Made where an update is under way or not as `u` says, the program makes its requests where they
belong.  Afterwards an update is under way as `v` says, or as `w` says if the program fails. -/
def Leads (u v w : Bool) (program : TerminalM α) : Prop :=
  ∀ terminal (h : History), h.InOrder u → match program terminal h with
    | (.ok _, h') => h'.InOrder v
    | (.error _, h') => h'.InOrder w

theorem leads_pure (u w : Bool) (a : α) : Leads u u w (pure a) :=
  fun _ _ hh => hh

theorem Leads.bind {v' : Bool} {program : TerminalM α} {f : α → TerminalM β}
    (h : Leads u v w program) (hf : ∀ a, Leads v v' w (f a)) : Leads u v' w (program >>= f) := by
  intro terminal history hh
  have hprogram := h terminal history hh
  rw [bind_apply]
  rcases hrun : program terminal history with ⟨e | a, history'⟩
  · rw [hrun] at hprogram
    exact hprogram
  · rw [hrun] at hprogram
    exact hf a terminal history' hprogram

/-- A program that leads to the same whether it fails or not leads there. -/
theorem Leads.inOrder {program : TerminalM α} (h : Leads u v v program) (terminal : Terminal)
    {history : History} (hh : history.InOrder u) : (program terminal history).2.InOrder v := by
  have hprogram := h terminal history hh
  rcases hrun : program terminal history with ⟨e | a, history'⟩
  · rw [hrun] at hprogram
    exact hprogram
  · rw [hrun] at hprogram
    exact hprogram

/-- A request leads to what it comes to when it is granted, or when it fails. -/
theorem leads_request {r : Request} (hr : r.InPlace u)
    (hdone : ∀ x : Exchange, x.request = r → x.isGranted = true → x.updatingAfter u = v)
    (hfailed : ∀ x : Exchange, x.request = r → x.isGranted = false → x.updatingAfter u = w) :
    Leads u v w (request r) := by
  intro terminal h hh
  rw [request_apply]
  have hconcat := hh.concat (x := { request := r, reply := terminal.reply h.length r }) hr
  cases hreply : (terminal.reply h.length r).failure? with
  | none => rwa [hdone _ rfl (by rw [Exchange.isGranted, hreply]; rfl)] at hconcat
  | some reason => rwa [hfailed _ rfl (by rw [Exchange.isGranted, hreply]; rfl)] at hconcat

theorem leads_beginUpdate : Leads false true false (request .beginUpdate) :=
  leads_request rfl (by simp +contextual [Exchange.updatingAfter])
    (by simp +contextual [Exchange.updatingAfter])

theorem leads_endUpdate : Leads true false false (request .endUpdate) :=
  leads_request rfl (by simp +contextual [Exchange.updatingAfter])
    (by simp +contextual [Exchange.updatingAfter])

/-- A request that neither begins nor ends an update leaves things as they are. -/
theorem leads_request_self {r : Request} (hr : r.InPlace u) (hbegin : r ≠ .beginUpdate)
    (hend : r ≠ .endUpdate) : Leads u u u (request r) := by
  have hsame : ∀ x : Exchange, x.request = r → x.updatingAfter u = u := by
    intro x hx
    unfold Exchange.updatingAfter
    split
    · next h => exact absurd (hx.symm.trans h) hbegin
    · next h => exact absurd (hx.symm.trans h) hend
    · rfl
  exact leads_request hr (fun x hx _ => hsame x hx) (fun x hx _ => hsame x hx)

/-- An update is ended however its body ends, and no end is asked for if it could not be begun. -/
theorem leads_atomically {program : TerminalM α} (h : Leads true true true program) :
    Leads false false false (atomically program) := by
  intro terminal history hh
  have hbegin := leads_beginUpdate terminal history hh
  rw [atomically_apply]
  rcases hrun : request .beginUpdate terminal history with ⟨e | _, history'⟩
  · rw [hrun] at hbegin
    exact hbegin
  · rw [hrun] at hbegin
    have hend := (leads_endUpdate.inOrder terminal ((h.inOrder terminal hbegin)))
    dsimp only
    rcases (program terminal history').1 with e | a
    · exact hend
    · exact hend

theorem leads_askWidth : Leads false false false askWidth := by
  intro terminal h hh
  exact (leads_request_self (r := .width) rfl nofun nofun).bind
    (fun _ => leads_pure false false (terminal.width h.length)) terminal h hh

theorem leads_update (clearFirst : Bool) (rows : List Row) (style : DrawStyle) :
    Leads false false false (update clearFirst rows style) := by
  have hdraw : Leads true true true (draw rows style) := by
    unfold draw
    split
    · exact leads_pure true true _
    · have hframe : (Request.write (frame rows style)).InPlace true :=
        ⟨fun _ => ⟨rows, style, rfl⟩, fun _ => rfl⟩
      exact (leads_request_self hframe nofun nofun).bind fun _ => leads_pure true true _
  refine leads_atomically ?_
  cases clearFirst with
  | true => exact (leads_request_self (r := .clear) rfl nofun nofun).bind fun _ => hdraw
  | false => exact hdraw

end TerminalM

/-! ## Calls -/

/-- A plain request belongs outside updates. -/
theorem Request.IsPlain.inPlace {r : Request} (h : r.IsPlain) : r.InPlace false := by
  cases r with
  | write commands =>
    refine ⟨nofun, fun hdraws => ?_⟩
    obtain ⟨rows, style, rfl⟩ := hdraws
    exact absurd (clearBelow_mem_frame rows style) h
  | beep => rfl
  | width => rfl
  | beginUpdate => exact absurd h id
  | endUpdate => exact absurd h id
  | clear => exact absurd h id

namespace SessionM

variable {α : Type}

/-- Whatever fails, a program on a session makes its requests where they belong, and leaves no
update under way. -/
theorem Composed.inOrder {x : SessionM α} (hx : Composed x) (terminal : Terminal) {s : Session}
    (hs : s.history.InOrder false) : (x terminal s).2.history.InOrder false := by
  induction hx generalizing s with
  | pure a => exact hs
  | look _ _ ihf => exact ihf s hs
  | change f hhistory =>
    show (f s).history.InOrder false
    rwa [history_change hhistory]
  | misuse misuse => exact hs
  | askWidth => exact TerminalM.leads_askWidth.inOrder terminal hs
  | request r hr =>
    refine (TerminalM.leads_request_self hr.inPlace ?_ ?_).inOrder terminal hs
    · rintro rfl
      exact hr
    · rintro rfl
      exact hr
  | update clearFirst rows style =>
    exact (TerminalM.leads_update clearFirst rows style).inOrder terminal hs
  | @bind _ _ x f _ _ ihx ihf =>
    have hfirst := ihx hs
    rw [bind_apply]
    rcases hrun : x terminal s with ⟨e | a, s'⟩
    · rw [hrun] at hfirst
      exact hfirst
    · rw [hrun] at hfirst
      exact ihf a hfirst

end SessionM

namespace SessionM

/-- What was asked of the terminal before a program stays in the history. -/
theorem Composed.asks {α : Type} {x : SessionM α} (hx : Composed x) : Asks (fun _ => True) x := by
  induction hx with
  | pure a => exact asks_pure a
  | look _ _ ihf => exact asks_get.bind ihf
  | change f hhistory => exact asks_modify (history_change hhistory)
  | misuse misuse => exact fun _ s => .refl _ s.history
  | askWidth => exact asks_onTerminal (TerminalM.asks_askWidth trivial)
  | request r hr => exact asks_request trivial
  | update clearFirst rows style =>
    refine asks_onTerminal (TerminalM.Asks.atomically ?_ trivial trivial)
    cases clearFirst with
    | true =>
      exact (TerminalM.asks_request trivial).bind fun _ =>
        TerminalM.asks_draw (fun _ => trivial) rows style
    | false => exact TerminalM.asks_draw (fun _ => trivial) rows style
  | bind hx hf ihx ihf => exact ihx.bind ihf

end SessionM

namespace Session

/-- Between the calls of a run no update is under way. -/
theorem inOrder_afterAll (config : Config) (calls : List (Terminal × Call)) :
    ((ofConfig config).afterAll calls).history.InOrder false :=
  afterAll_induction (P := fun s => s.history.InOrder false) History.inOrder_nil calls
    fun _ terminal call _ hs => call.run_composed.inOrder terminal hs

/-- The updates of the screen in any run, whatever fails in it.  No update is under way before a call
or after it.  An update is begun only while none is under way, and ended only while one is; the
screen is cleared and rows are drawn only within updates, and nothing else is done there.  An update
that was begun is ended within the same call, and until then nothing is done but drawing. -/
theorem updates_are_bracketed (config : Config) (calls : List (Terminal × Call))
    (terminal : Terminal) (call : Call) :
    let s := (ofConfig config).afterAll calls
    let s' := s.after terminal call
    s.history.updating = false ∧ s'.history.updating = false ∧
      (∀ (earlier : History) x later, s'.history = earlier ++ x :: later →
        x.request.InPlace earlier.updating) ∧
      ∃ exchanges, s'.history = s.history ++ exchanges ∧
        ∀ earlier opening later, exchanges = earlier ++ opening :: later →
          opening.request = .beginUpdate → opening.isGranted = true →
          ∃ body closing rest, later = body ++ closing :: rest ∧
            closing.request = .endUpdate ∧ ∀ x ∈ body, x.request.Draws := by
  intro s s'
  have hs : s.history.InOrder false := inOrder_afterAll config calls
  have hs' : s'.history.InOrder false := call.run_composed.inOrder terminal hs
  obtain ⟨exchanges, hexchanges, -⟩ : s.history.Grows (fun _ => True) s'.history :=
    call.run_composed.asks terminal s
  refine ⟨hs.updating_eq, hs'.updating_eq, hs'.inPlace, exchanges, hexchanges, ?_⟩
  intro earlier opening later heq hbegin hgranted
  have hbegun : s'.history = (s.history ++ earlier ++ [opening]) ++ later := by
    rw [hexchanges, heq]
    simp
  refine hs'.exists_end hbegun ?_
  rw [History.updating_concat, Exchange.updatingAfter, hbegin]
  simp [hgranted]

end Session

end LineEditor
