import RingQueue.Settings.Basic

/-! Environment variables. -/
namespace RingQueue

/-- The variables that are set, each with its value. -/
abbrev Environment := List (String × String)

/-- The name of the environment to load settings for. -/
def Environment.defaultEnv (environment : Environment) : String :=
  (environment.lookup "CIRCQ_ENV").getD "development"

def Settings.default (environment : Environment) : Settings := { env := environment.defaultEnv }

end RingQueue
