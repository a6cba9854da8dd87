import PetBackend.App.Usecases
import PetBackend.Library.RelyGuarantee
import PetBackend.Postgres.Database

/-!
# The session

An `AsyncSession` over the calls of a transaction. Pending objects are flushed before a statement
when autoflush is on, and before a commit.
-/

namespace PetBackend.Postgres
open Library Persistence

structure SessionState where
  new : List OrganizationValues := []

abbrev SessionM : Type → Type := StateT SessionState (Program DbOp DbOp.Ret)

def dbCall (op : DbOp) : SessionM op.Ret := StateT.lift (Program.lift op)

def insertPending : List OrganizationValues → SessionM (Except Exc Unit)
  | [] => return .ok ()
  | values :: rest => do
    match ← dbCall (.insertOrganization values) with
    | .ok () => insertPending rest
    | .error raised => return .error raised

/-- A flush that fails expunges the pending objects too. -/
def flushPending : SessionM (Except Exc Unit) := do
  let pending ← get
  set { new := [] : SessionState }
  insertPending pending.new

def autoflushPending (autoflush : Bool) : SessionM (Except Exc Unit) :=
  if autoflush then flushPending else return .ok ()

/-- Nothing but the clock and the database answers. -/
def asyncSession (autoflush : Bool) : SessionApi SessionM where
  sessionFactory := do
    set { : SessionState }
    return 0
  orgsRepoFactory _ := return .ok ()
  usersRepoFactory _ := return .ok ()
  membershipsRepoFactory _ := return .ok ()
  add _ values := modify fun state => { new := state.new ++ [values] }
  execute _ statement := do
    match ← autoflushPending autoflush with
    | .ok () => dbCall (.execute statement)
    | .error raised => return .error raised
  flush _ := flushPending
  refresh _ _ := do
    match ← autoflushPending autoflush with
    | .ok () => dbCall .refresh
    | .error raised => return .error raised
  commit _ := do
    match ← flushPending with
    | .ok () => dbCall .commit
    | .error raised => return .error raised
  rollback _ := do
    set { new := [] : SessionState }
    dbCall .rollback
  close _ := do
    set { new := [] : SessionState }
    dbCall .close
    return .ok ()
  now := dbCall .now

variable {u : UnicodeData}

/-- A request: which use case, with what input and what generator. -/
inductive Job where
  | createOrganization (cmd : CreateOrganizationCmdIn) (uuidGen : Nat → UUID)
  | provisionUser (principal : Principal) (uuidGen : Nat → UUID)

inductive JobResult where
  | organization (publicId : PublicId)
  | user (user : User) (created : Bool)

def Job.handler (u : UnicodeData) : Job → HandlerProgram u JobResult
  | .createOrganization cmd uuidGen => ExceptT.run do
    return .organization (← createOrganizationCmd cmd uuidGen)
  | .provisionUser principal uuidGen => ExceptT.run do
    let (user, created) ← provisionUserFromClaims principal uuidGen
    return .user user created

/-- The whole transaction of a job, on a session of its own. -/
def Job.task (u : UnicodeData) (autoflush : Bool) (job : Job) :
    Program DbOp DbOp.Ret (Except Exc JobResult) :=
  (run (asyncSession autoflush) (job.handler u)).run' {}

def initial (u : UnicodeData) (autoflush : Bool) (jobs : Nat → Job) :
    Running DbOp DbOp.Ret Database (Except Exc JobResult) :=
  ⟨.empty, fun i => (jobs i).task u autoflush⟩

def Reachable (server : Server) (u : UnicodeData) (autoflush : Bool) (jobs : Nat → Job)
    (state : Running DbOp DbOp.Ret Database (Except Exc JobResult)) : Prop :=
  Running.Reachable server.step (initial u autoflush jobs) state

end PetBackend.Postgres
