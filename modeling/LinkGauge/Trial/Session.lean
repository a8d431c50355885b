import LinkGauge.Delivery.Place
import LinkGauge.Store.Opening
import LinkGauge.Trial.Basic

/-!
# Sessions

A process that makes a trial opens the database only if results go there, measures, and ends.
-/

namespace LinkGauge.Trial

/-- What a process needs from beginning to end. -/
abbrev World : Interface := Store.Opening.sum Fieldwork

variable {α : Type}

/-- A plan to open the database. -/
def opening (p : Plan Store.Opening α) : Plan World α :=
  p.translate fun (q : Store.Opening.Question) => .ask (.inl q) .done

/-- A plan that measures and delivers. -/
def fieldwork (p : Plan Fieldwork α) : Plan World α :=
  p.translate fun (q : Fieldwork.Question) => .ask (.inr q) .done

/-- Break off. -/
def abort (reason : Abort) : Plan World α :=
  .ask (.inr (.inl (.abort reason))) fun no => nomatch no

/-- Open what results go to. -/
def prepare (s : Settings) : Plan World (Except (List String) Unit) :=
  match s.destination with
  | .direct =>
    (opening (Store.establish s.database)).bind fun answer =>
      .done (answer.mapError (·.chain))
  | .remote _ => .done (.ok ())

/-- Make a trial as settings say. The error is a chain of messages, from the outermost to the
innermost. -/
def session (s : Settings) (daemon : DaemonId) (t : Trial) :
    Plan World (Except (List String) Report) :=
  (prepare s).andThen fun () =>
    let r : Rig := ⟨s.testing, s.tools, daemon⟩
    match r.check with
    | .error reason => abort reason
    | .ok () =>
      (fieldwork (Delivery.toward s.destination (r.trial t))).bind fun answer =>
        .done (answer.mapError (·.chain))

end LinkGauge.Trial
