/-! The events that a survey reports while it runs. -/

namespace SourceSurvey

inductive Level where
  | info
  | debug
  | warn
deriving DecidableEq, Repr

structure LogEvent where
  level : Level
  message : String
  fields : List (String × String)
deriving DecidableEq, Repr

end SourceSurvey
