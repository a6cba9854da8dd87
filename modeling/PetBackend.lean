import PetBackend.Auth.JwksLicense
import PetBackend.Auth.JwksProgress
import PetBackend.Auth.JwksContainment
import PetBackend.Auth.JwksKeyMap
import PetBackend.Auth.JwksRefusals
import PetBackend.Auth.Authentication
import PetBackend.Auth.Components
import PetBackend.Auth.Grants
import PetBackend.Persistence.Errors
import PetBackend.Domain.Models
import PetBackend.Persistence.UnitOfWork
import PetBackend.Library.Program
import PetBackend.Api.InvalidRequests
import PetBackend.Api.Organizations
import PetBackend.Api.Challenges
import PetBackend.Api.Refusals
import PetBackend.Api.ServiceRuns
import PetBackend.Api.Completion
import PetBackend.Api.Creations
import PetBackend.Api.LogCorrelation
import PetBackend.Api.Lifespan
import PetBackend.Api.Linearizability
import PetBackend.PyInt
import PetBackend.App.Provisioning
import PetBackend.App.Usecases
import PetBackend.Persistence.Columns
import PetBackend.Persistence.Diagnosis
import PetBackend.Persistence.Exec
import PetBackend.Persistence.FirstFailure
import PetBackend.Persistence.LifeCycle
import PetBackend.Persistence.Atomicity
import PetBackend.Postgres.TakenNames
import PetBackend.Library.RelyGuarantee
import PetBackend.Library.Trimming
import PetBackend.Postgres.Runs
import PetBackend.Postgres.Timestamps
import PetBackend.Config.LogSecrets
import PetBackend.Config.RedactionPaths
import PetBackend.Config.Contextvars
import PetBackend.Config.AccessLog
import PetBackend.App.Ledger
import PetBackend.Library.Linearization
import PetBackend.Postgres.Books
