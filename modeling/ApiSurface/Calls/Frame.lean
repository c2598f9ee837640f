/-!
# Call frames

A frame is one method on a call path. Two frames are the same method exactly when class, name and
descriptor agree.
-/
namespace ApiSurface

/-- A method on a call path. -/
structure Frame where
  owner : String
  method : String
  descriptor : String
deriving DecidableEq

/-- The frame as class and method name. -/
def Frame.text (f : Frame) : String := f.owner ++ "#" ++ f.method

/-- The place a message is about: the method with its descriptor. -/
def Frame.location (f : Frame) : String := f.text ++ f.descriptor

/-- The frames of a call path, from the first method entered on. -/
def callPathText (path : List Frame) : String := String.intercalate " -> " (path.map Frame.text)

end ApiSurface
