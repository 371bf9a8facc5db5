/-!
# The help of the command

The texts that describe the command line: the usage, which stands in front of every complaint about
the arguments, and the help as a whole.
-/

namespace ServiceClient.Cli

/-- The name of the program. -/
def program : String := "aws_codegen"

/-- How the program is used. -/
def usage : String :=
  "usage: aws_codegen [-h] --api API --docs DOCS --endpoints ENDPOINTS --output\n" ++
  "                   OUTPUT [--language \x7belixir,erlang\x7d] [--option KEY=VALUE]\n" ++
  "                   [-v]\n" ++
  "                   module_name\n"

/-- The help. -/
def help : String :=
  usage ++
  "\n" ++
  "Generate an AWS service client module from its API spec.\n" ++
  "\n" ++
  "positional arguments:\n" ++
  "  module_name           Module name of the generated client\n" ++
  "\n" ++
  "options:\n" ++
  "  -h, --help            show this help message and exit\n" ++
  "  --api API             API spec (api-2.json)\n" ++
  "  --docs DOCS           Doc spec (docs-2.json)\n" ++
  "  --endpoints ENDPOINTS\n" ++
  "                        Endpoint catalog (endpoints.json)\n" ++
  "  --output OUTPUT       Output directory\n" ++
  "  --language \x7belixir,erlang\x7d\n" ++
  "  --option KEY=VALUE    Extra option passed to the template context\n" ++
  "  -v, --verbose\n"

end ServiceClient.Cli
