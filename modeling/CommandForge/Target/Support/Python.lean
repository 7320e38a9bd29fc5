/-!
# The base class of generated Python commands

The file as it is shipped, line by line.
-/

namespace CommandForge.Support

/-- The lines of the base file. -/
def pythonBase : List String := [
  "# This file is auto-generated. Do not edit manually.",
  "\"\"\"",
  "Base class for generated commands.",
  "",
  "Generated commands are dataclasses deriving from Command. Each one carries its",
  "normalized name as the COMMAND_NAME class constant.",
  "",
  "Encoding writes \"command_name\" first, then every field; optional fields that",
  "are None are omitted. Decoding matches keys case-insensitively (an exactly",
  "lowercase key wins), ignores unknown keys, treats null as absent, and raises",
  "DecodeError for malformed text, a non-object root or a mistyped value.",
  "\"\"\"",
  "",
  "import dataclasses",
  "import json",
  "import typing",
  "from typing import Any, ClassVar, Dict, Optional, Tuple, Type, TypeVar",
  "",
  "COMMAND_NAME_KEY = \"command_name\"",
  "",
  "T = TypeVar(\"T\", bound=\"Command\")",
  "",
  "_DEFAULTS: Dict[type, Any] = \x7bstr: \"\", int: 0, bool: False\x7d",
  "",
  "",
  "class DecodeError(ValueError):",
  "    \"\"\"Raised when JSON text cannot be decoded into a command.\"\"\"",
  "",
  "",
  "def _unwrap_optional(annotation: Any) -> Tuple[Any, bool]:",
  "    if typing.get_origin(annotation) is typing.Union:",
  "        args = [arg for arg in typing.get_args(annotation) if arg is not type(None)]",
  "        return args[0], True",
  "    return annotation, False",
  "",
  "",
  "def _matches(value: Any, expected: type) -> bool:",
  "    # bool is a subclass of int, so check it explicitly",
  "    if expected is int:",
  "        return isinstance(value, int) and not isinstance(value, bool)",
  "    return isinstance(value, expected)",
  "",
  "",
  "class Command:",
  "    COMMAND_NAME: ClassVar[str] = \"\"",
  "",
  "    @property",
  "    def command_name(self) -> str:",
  "        return self.COMMAND_NAME",
  "",
  "    def to_dict(self) -> Dict[str, Any]:",
  "        hints = typing.get_type_hints(type(self))",
  "        data: Dict[str, Any] = \x7bCOMMAND_NAME_KEY: self.COMMAND_NAME\x7d",
  "        for field in dataclasses.fields(self):",
  "            value = getattr(self, field.name)",
  "            _, optional = _unwrap_optional(hints[field.name])",
  "            if optional and value is None:",
  "                continue",
  "            data[field.name] = value",
  "        return data",
  "",
  "    def to_json(self, indent: Optional[int] = None) -> str:",
  "        return json.dumps(self.to_dict(), ensure_ascii=False, indent=indent)",
  "",
  "    @classmethod",
  "    def from_json(cls: Type[T], text: str) -> T:",
  "        try:",
  "            data = json.loads(text)",
  "        except json.JSONDecodeError as err:",
  "            raise DecodeError(f\"malformed JSON for \x7bcls.COMMAND_NAME\x7d: \x7berr\x7d\") from err",
  "",
  "        if not isinstance(data, dict):",
  "            raise DecodeError(",
  "                f\"expected a JSON object for \x7bcls.COMMAND_NAME\x7d, found \x7btype(data).__name__\x7d\"",
  "            )",
  "",
  "        folded: Dict[str, Any] = \x7b\x7d",
  "        for key, value in data.items():",
  "            lower = key.lower()",
  "            if lower == COMMAND_NAME_KEY or value is None:",
  "                continue",
  "            if lower == key or lower not in folded:",
  "                folded[lower] = value",
  "",
  "        hints = typing.get_type_hints(cls)",
  "        values: Dict[str, Any] = \x7b\x7d",
  "        for field in dataclasses.fields(cls):",
  "            expected, optional = _unwrap_optional(hints[field.name])",
  "            if field.name not in folded:",
  "                values[field.name] = None if optional else _DEFAULTS[expected]",
  "                continue",
  "            value = folded[field.name]",
  "            if not _matches(value, expected):",
  "                raise DecodeError(",
  "                    f\"field \x7bfield.name!r\x7d of \x7bcls.COMMAND_NAME\x7d expects \"",
  "                    f\"\x7bexpected.__name__\x7d, found \x7btype(value).__name__\x7d\"",
  "                )",
  "            values[field.name] = value",
  "",
  "        return cls(**values)",
  ""]

end CommandForge.Support
