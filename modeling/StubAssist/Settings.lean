import StubAssist.Receiver

/-!
# Settings

Everything a settings file can say: the receiver, the stub generator, the symbol
index and the interface prompt.
-/

namespace StubAssist

structure GeneratorSettings where
  tool : Text
  arguments : List Text
  timeoutSeconds : Nat
deriving DecidableEq, Repr

structure IndexSettings where
  tool : Text
  timeoutSeconds : Nat
deriving DecidableEq, Repr

structure PromptSettings where
  debounceMillis : Nat
  placeholder : Text
deriving DecidableEq, Repr

structure Settings where
  receiver : ReceiverSettings
  generator : GeneratorSettings
  index : IndexSettings
  prompt : PromptSettings
deriving DecidableEq, Repr

namespace GeneratorSettings

def default : GeneratorSettings where
  tool := "impl"
  arguments := []
  timeoutSeconds := 10

def timeoutMillis (settings : GeneratorSettings) : Nat :=
  settings.timeoutSeconds * 1000

end GeneratorSettings

namespace IndexSettings

def default : IndexSettings where
  tool := "gopls"
  timeoutSeconds := 10

def timeoutMillis (settings : IndexSettings) : Nat :=
  settings.timeoutSeconds * 1000

end IndexSettings

namespace PromptSettings

def default : PromptSettings where
  debounceMillis := 300
  placeholder := "Please enter interface which you want to implement."

end PromptSettings

namespace Settings

def default : Settings where
  receiver := .default
  generator := .default
  index := .default
  prompt := .default

end Settings
end StubAssist
