import ChatOptions.Config
import ChatOptions.Config.Directory

/-! Default options loaded from a file. -/

namespace ChatOptions

namespace Options

/-- Default options from a configuration file, with a notice once they are loaded. -/
def load (environment : Environment) (directory : Directory) (format : ConfigFormat)
    (path : String) : Except ConfigError (Options × List Notice) := do
  let text ← (directory.readText path).mapError (.file path)
  let options ← ofTextAt environment format path text
  return (options, [.defaultsLoaded path options.model])

end Options

end ChatOptions
