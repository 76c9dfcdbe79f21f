import Requisite.Extraction

/-!
# Sessions

A series of calls. Only extractions change the tree that is remembered; the others are there
to be asked in between.
-/

namespace Requisite

/-- A question that can be asked in a session. -/
inductive Call where
  | extract (content : Content) (options : Options)
  | extractFile (files : FileSystem) (path : String) (options : FileOptions)
  | find (finder : Finder) (content : Content) (options : Option Json)
  | parse (language : Script.Language) (text : String)
  | parseSource (text : String)
  | format (program : Script.Program)
  | stylesheet (dialect : Stylesheet.Dialect) (text : String)

inductive Answer where
  | extraction (result : Except Error Extraction)
  | dependencies (result : Except Error (List String))
  | finding (result : Except Error Finder.Finding)
  | program (result : Option Script.Program)
  | format (format : Option Format)
  | stylesheet (sheet : Stylesheet)

def Call.run : Call → Session Answer
  | .extract content options => return .extraction (← Requisite.extract content options)
  | .extractFile files path options =>
    return .dependencies (← Requisite.extractFile files path options)
  | .find finder content options => return .finding (finder.find content options)
  | .parse language text => return .program (Script.parse? language text)
  | .parseSource text => return .program (Script.parseSource? text)
  | .format program => return .format program.format?
  | .stylesheet dialect text => return .stylesheet (.ofText dialect text)

end Requisite
