import LineShell.Machine.Number

/-!
# Jobs

A shell keeps the commands that it has put in the background as jobs, at numbered places. A place is free
again when it is known how its job has ended.

* `Job`, `Jobs`: the jobs and their places.
* `Jobs.place`, `Jobs.makeRoom`: new jobs.
* `Jobs.find`: the job that an argument stands for.
* `Jobs.line`: what is shown of a job.
-/

namespace LineShell.Machine.Shell

/-- A job: the number of its last process, how many processes it has, how it ended, and whether that is
known because it has been waited for. -/
structure Job where
  process : Nat
  size : Nat := 1
  status : Nat
  known : Bool := false
deriving DecidableEq, Repr

/-- The places of jobs, by number from 1 on. -/
abbrev Jobs := List (Option Job)

namespace Jobs

/-- The first free place, counted from 0. -/
def freePlace (jobs : Jobs) : Nat :=
  jobs.findIdx fun place => place.all (·.known)

/-- Forgets the job at the first free place, which a command in front takes for a while. -/
def makeRoom (jobs : Jobs) : Jobs :=
  jobs.set jobs.freePlace none

/-- Puts a job at the first free place. -/
def place (job : Job) (jobs : Jobs) : Jobs :=
  if jobs.freePlace < jobs.length then jobs.set jobs.freePlace (some job) else jobs ++ [some job]

/-- The jobs with their places, the latest one first. -/
def latest (jobs : Jobs) : List (Nat × Job) :=
  let taken := jobs.zipIdx.filterMap fun entry => entry.1.map (entry.2, ·)
  taken.mergeSort fun left right => right.2.process ≤ left.2.process

/-- The place of the job that an argument stands for: `%1` is the first place, `%%` the latest job and `%-`
the one before that. Otherwise it is said what is missing. -/
def find (jobs : Jobs) (argument : Bytes) : Except Bytes Nat :=
  let nth := fun (n : Nat) (missing : String) =>
    match jobs.latest[n]? with
    | some entry => .ok entry.1
    | none => .error (Utf8.encode missing)
  let unknown := .error (Utf8.encode "No such job: " ++ argument)
  match argument with
  | 0x25 :: name =>
    if [[], [byte '%'], [byte '+']].contains name then nth 0 "No current job"
    else if name = [byte '-'] then nth 1 "No previous job"
    else if name.all isDigit && 0 < numberOf 10 name then
      let place := numberOf 10 name - 1
      if (jobs[place]?).join.isSome then .ok place else unknown
    else unknown
  | _ => unknown

/-- What is shown of the job at a place, with the number of its process or without. A mark stands beside the
latest job and the one before it. -/
def line (jobs : Jobs) (withProcess : Bool) (place : Nat) (job : Job) : Bytes :=
  let mark :=
    match jobs.latest.findIdx fun entry => entry.1 == place with
    | 0 => "+"
    | 1 => "-"
    | _ => " "
  let process := if withProcess then s!"{job.process} " else ""
  let how :=
    if !job.known then "Running"
    else if job.status = 0 then "Done"
    else s!"Done({job.status})"
  let front := Utf8.encode s!"[{place + 1}] {mark} {process}{how}"
  let others := (List.replicate (job.size - 1) (Utf8.encode " | ")).flatten
  front ++ List.replicate (33 - front.length) (byte ' ') ++ others

end Jobs

end LineShell.Machine.Shell
