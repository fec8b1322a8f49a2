/-! What the program calls itself. -/

namespace ApiStyle.Program

def name : String := "oas-style"

def version : String := "0.1.0"

end ApiStyle.Program
