import NumericControl.Loader.Basic

/-!
# Loads that run to their end

The workers of a loader run one after the other, each up to its end.  Whoever is asked about a
tool while a line is read may start or cancel a load then and there.

## Main definitions

* `ToolReaction` : what a question about a tool brings about.
* `Loader.settle` : the loader when all workers are done.
-/

namespace NumericControl

/-- What a question about a tool brings about. -/
abbrev ToolReaction := Int → Option LoaderAction

namespace Loader

/-- The tools that are asked about in the next step of a worker. -/
def toolsAsked (source : LoadSource) (w : Worker) : List Int :=
  match w.phase with
  | .reading job _ text _ =>
    (job.program.questions source.setup text).filterMap fun
      | .tool number => some number
      | _ => none
  | _ => []

/-- Let a worker take its next step, with the reactions to the questions on the way. -/
def workReacting (source : LoadSource) (reaction : ToolReaction) (l : Loader) (w : Worker) :
    Loader :=
  let actions := (toolsAsked source w).filterMap reaction
  (actions.foldl (perform source) l).perform source (.work w.token)

/-- The loader when all workers are done, or after so many steps. -/
def settle (source : LoadSource) (reaction : ToolReaction) : Nat → Loader → Loader
  | 0, l => l
  | steps + 1, l =>
    match l.workers.find? fun w => !w.isDone with
    | some w => settle source reaction steps (l.workReacting source reaction w)
    | none => l

end Loader

end NumericControl
